import ScopedSearch.Template

/-!
# The packaged templates

The templates that the search comes with, each a form for one scope. An archive is a set with the
classification `archiveClassification`; items and further sets hang beneath it as its members.
-/

namespace ScopedSearch

/-- A template given by a form. -/
structure Blueprint where
  name : String
  scope : String
  summary : String := ""
  form : Form

def Blueprint.template (blueprint : Blueprint) : Template :=
  .declare blueprint.name (some blueprint.scope) (fun given => blueprint.form.fill given) ""
    blueprint.summary

namespace Catalogue

/-- Sets that are classified as archives. -/
def archiveClassification : Form :=
  .hop "classification"
    (.constant "identifier" (.string "http://vocab.getty.edu/aat/300375748"))

/-- Members of an archive that holds the record. -/
def archiveMember (containing : String) : Form :=
  .hop "memberOf" (.allOf [archiveClassification, .byId containing])

/-- Items and sets in an archive that holds the record. -/
def siblings (containing : String) : Form :=
  .scoped "multi"
    (.anyOf [.scoped "item" (archiveMember containing), .scoped "set" (archiveMember containing)])

/-- The record, if it is classified as an archive. -/
def archive : Form := .allOf [.hole "id", archiveClassification]

/-- The concept, or one that it influenced. -/
def conceptOrInfluenced : Form := .anyOf [.hole "id", .byId "influencedByConcept"]

def agents : List Blueprint :=
  [
    { name := "agentsActiveAtPlace", scope := "agent",
      summary := "Agents who were active at the place.",
      form := .byId "activeAt" },
    { name := "agentsBornAtPlace", scope := "agent",
      summary := "Agents who were born at the place.",
      form := .byId "startAt" },
    { name := "agentsDiedAtPlace", scope := "agent", summary := "Agents who died at the place.",
      form := .byId "endAt" },
    { name := "agentsClassifiedAs", scope := "agent", summary := "Agents classified as the type.",
      form := .byId "classification" },
    { name := "agentsFoundedByAgent", scope := "agent", summary := "Agents founded by the agent.",
      form := .byId "foundedBy" },
    { name := "agentsMemberOfGroup", scope := "agent",
      summary := "Agents that are members of the group.",
      form := .byId "memberOf" },
    { name := "agentsWithGender", scope := "agent", form := .byId "gender" },
    { name := "agentsWithNationality", scope := "agent", form := .byId "nationality" },
    { name := "agentsWithOccupation", scope := "agent", form := .byId "occupation" },
    { name := "agentsRelatedToAgent", scope := "agent", form := .hole "relatedToAgent" },
    { name := "agentsRelatedToConcept", scope := "agent", form := .hole "relatedToConcept" },
    { name := "agentsRelatedToEvent", scope := "agent", form := .hole "relatedToEvent" },
    { name := "agentsRelatedToPlace", scope := "agent", form := .hole "relatedToPlace" },
    { name := "departmentsCuratedSet", scope := "agent",
      summary := "Departments (agents) that curated a set containing the set.",
      form := .hop "curated" (.byId "containing") },
    { name := "departmentsWithItem", scope := "agent",
      summary := "Departments that curated a set containing the item.",
      form := .hop "curated" (.byId "containing") }
  ]

def archives : List Blueprint :=
  [
    { name := "archivesWithItem", scope := "set", summary := "Archives containing the item.",
      form := .allOf [archiveClassification, .byId "containing"] },
    { name := "currentItemAndSiblings", scope := "multi",
      summary := "The item and its siblings (items and sets) in an archive hierarchy.",
      form := siblings "containingItem" },
    { name := "currentSetAndSiblings", scope := "multi",
      summary := "The set and its siblings (items and sets) in an archive hierarchy.",
      form := siblings "containingSet" },
    { name := "itemsInSetWithImagesEstimate", scope := "item",
      summary := "Estimate variant of itemsInSetWithImages.",
      form := .allOf [
        .anyOf [
          .hop "memberOf" archive,
          .hop "memberOf" (.hop "memberOf" archive),
          .hop "memberOf" (.hop "memberOf" (.hop "memberOf" archive))],
        .constant "hasDigitalImage" (.int 1)] }
  ]

def concepts : List Blueprint :=
  [
    { name := "childrenOfConcept", scope := "concept", summary := "Sub-concepts of the concept.",
      form := .byId "broader" },
    { name := "conceptsClassifiedAs", scope := "concept", form := .byId "classification" },
    { name := "conceptsInfluencedByAgent", scope := "concept", form := .byId "influencedByAgent" },
    { name := "conceptsInfluencedByConcept", scope := "concept",
      form := .byId "influencedByConcept" },
    { name := "conceptsInfluencedByPlace", scope := "concept", form := .byId "influencedByPlace" },
    { name := "conceptsSubjectsForPeriod", scope := "concept",
      summary := "Concepts influenced by the period (event).",
      form := .byId "influencedByEvent" },
    { name := "conceptsSubjectsForExhibition", scope := "concept",
      summary := "Subjects of works carried by items in a set used for the exhibition.",
      form := .hop "subjectOfConcept" (.hop "carriedBy" (.hop "memberOf" (.byId "usedForEvent"))) },
    { name := "conceptsRelatedToAgent", scope := "concept", form := .hole "relatedToAgent" },
    { name := "conceptsRelatedToConcept", scope := "concept", form := .hole "relatedToConcept" },
    { name := "conceptsRelatedToEvent", scope := "concept", form := .hole "relatedToEvent" },
    { name := "conceptsRelatedToPlace", scope := "concept", form := .hole "relatedToPlace" }
  ]

def events : List Blueprint :=
  [
    { name := "eventsCarriedOutByAgent", scope := "event", form := .byId "carriedOutBy" },
    { name := "eventsClassifiedAs", scope := "event", form := .byId "classification" },
    { name := "eventsHappenedAtPlace", scope := "event",
      summary := "Events that took place at the place.",
      form := .byId "tookPlaceAt" },
    { name := "eventsUsingAgentsProducedObjects", scope := "event",
      summary := "Events that used a set containing objects produced by the agent.",
      form := .hop "used" (.hop "containing" (.byId "producedBy")) },
    { name := "eventsWithItem", scope := "event",
      summary := "Events that used a set containing the item.",
      form := .hop "used" (.byId "containing") },
    { name := "eventsWithSet", scope := "event", form := .byId "used" }
  ]

def items : List Blueprint :=
  [
    { name := "itemById", scope := "item", form := .hole "id" },
    { name := "itemsCarryingWork", scope := "item", summary := "Items that carry or show the work.",
      form := .byId "carries" },
    { name := "workShownBy", scope := "item", form := .byId "carries" },
    { name := "itemsClassifiedAs", scope := "item", form := .byId "classification" },
    { name := "itemsOfTypeOrMaterial", scope := "item",
      summary := "Items classified as the concept or made of it.",
      form := .anyOf [.byId "classification", .byId "material"] },
    { name := "itemsProducedAtPlace", scope := "item", form := .byId "producedAt" },
    { name := "itemsProducedEncounteredAtPlace", scope := "item",
      form := .anyOf [.byId "producedAt", .byId "encounteredAt"] },
    { name := "itemsProducedByAgent", scope := "item", form := .byId "producedBy" },
    { name := "itemsEncounteredByAgent", scope := "item", form := .byId "encounteredBy" },
    { name := "itemsProductionInfluencedByAgent", scope := "item",
      form := .byId "productionInfluencedBy" },
    { name := "itemsProducedEncounteredByAgent", scope := "item",
      summary := "Items produced or encountered by the agent.",
      form := .anyOf [.byId "producedBy", .byId "encounteredBy"] },
    { name := "itemsProducedEncounteredInfluencedByAgent", scope := "item",
      form := .anyOf [.byId "producedBy", .byId "encounteredBy", .byId "productionInfluencedBy"] },
    { name := "itemsForDepartment", scope := "item",
      summary := "Items in a set curated by the department, or by a group the",
      form := .anyOf [
        .hop "memberOf" (.byId "curatedBy"),
        .hop "memberOf" (.hop "curatedBy" (.byId "memberOf"))] },
    { name := "itemsForEvent", scope := "item", summary := "Items in a set used for the event.",
      form := .hop "memberOf" (.byId "usedForEvent") },
    { name := "itemsAboutEvent", scope := "item",
      form := .hop "carries"
        (.anyOf [.byId "aboutEvent", .hop "aboutConcept" (.byId "influencedByEvent")]) },
    { name := "itemsInfluencedByEvent", scope := "item",
      form := .hop "carries" (.hop "aboutConcept" (.byId "influencedByEvent")) },
    { name := "itemsInSet", scope := "item", form := .byId "memberOf" },
    { name := "itemsInSetWithImages", scope := "item",
      summary := "Items with a digital image, up to three set levels below the set.",
      form := .allOf [
        .anyOf [
          .byId "memberOf",
          .hop "memberOf" (.byId "member"),
          .hop "memberOf" (.hop "member" (.byId "memberOf"))],
        .constant "hasDigitalImage" (.int 1)] },
    { name := "itemsSubjectOfItem", scope := "item", form := .byId "subjectOfItem" }
  ]

def places : List Blueprint :=
  [
    { name := "partsOfPlace", scope := "place", summary := "Places that fall within the place.",
      form := .byId "partOf" },
    { name := "placesClassifiedAs", scope := "place", form := .byId "classification" },
    { name := "placesRelatedToAgent", scope := "place", form := .hole "relatedToAgent" },
    { name := "placesRelatedToConcept", scope := "place", form := .hole "relatedToConcept" },
    { name := "placesRelatedToEvent", scope := "place", form := .hole "relatedToEvent" },
    { name := "placesRelatedToPlace", scope := "place", form := .hole "relatedToPlace" }
  ]

def sets : List Blueprint :=
  [
    { name := "setById", scope := "set", form := .hole "id" },
    { name := "setsInSet", scope := "set", form := .byId "memberOf" },
    { name := "setAboutEvent", scope := "set",
      form := .anyOf [.byId "aboutEvent", .hop "aboutConcept" (.byId "influencedByEvent")] },
    { name := "setCausedByEvent", scope := "set", form := .byId "creationCausedBy" },
    { name := "setForEventSetType", scope := "set",
      summary := "Sets related to the event, for the setType facet.",
      form := .anyOf [.byId "aboutEvent", .byId "creationCausedBy"] },
    { name := "setCreatedByAgent", scope := "set", form := .byId "createdBy" },
    { name := "setCreatedPublishedInfluencedByAgent", scope := "set",
      form := .anyOf [.byId "createdBy", .byId "publishedBy", .byId "creationInfluencedBy"] },
    { name := "setsRelatedToAgent", scope := "set",
      form := .anyOf [.byId "aboutAgent", .byId "createdBy", .byId "publishedBy"] },
    { name := "setsRelatedToConcept", scope := "set",
      summary := "Sets classified as, or about, the concept (or one it influenced).",
      form := .anyOf [.hop "classification" conceptOrInfluenced, .byId "aboutConcept"] },
    { name := "setsRelatedToPlace", scope := "set",
      form := .anyOf [.byId "aboutPlace", .byId "createdAt", .byId "publishedAt"] }
  ]

def works : List Blueprint :=
  [
    { name := "workById", scope := "work", form := .hole "id" },
    { name := "worksInSet", scope := "work", form := .byId "memberOf" },
    { name := "worksAboutAgent", scope := "work",
      summary := "Works about the agent, or about concepts the agent influenced.",
      form := .anyOf [.byId "aboutAgent", .hop "aboutConcept" (.byId "influencedByAgent")] },
    { name := "worksAboutEvent", scope := "work",
      form := .anyOf [.byId "aboutEvent", .hop "aboutConcept" (.byId "influencedByEvent")] },
    { name := "worksAboutConceptsInfluencedByEvent", scope := "work",
      form := .hop "aboutConcept" (.byId "influencedByEvent") },
    { name := "worksAboutPlace", scope := "work",
      form := .anyOf [.byId "aboutPlace", .hop "aboutConcept" (.byId "influencedByPlace")] },
    { name := "worksCausedByEvent", scope := "work", form := .byId "creationCausedBy" },
    { name := "worksWithEvent", scope := "work", form := .byId "causedByProject" },
    { name := "worksForEvent", scope := "work",
      summary := "Works carried by items in a set used for the event.",
      form := .hop "carriedBy" (.hop "memberOf" (.byId "usedForEvent")) },
    { name := "worksClassifiedAs", scope := "work", form := .byId "classification" },
    { name := "worksCreatedAtPlace", scope := "work", form := .byId "createdAt" },
    { name := "worksPublishedAtPlace", scope := "work", form := .byId "publishedAt" },
    { name := "worksCreatedByAgent", scope := "work", form := .byId "createdBy" },
    { name := "worksCreationInfluencedByAgent", scope := "work",
      form := .byId "creationInfluencedBy" },
    { name := "worksCreatedPublishedByAgent", scope := "work",
      form := .anyOf [.byId "createdBy", .byId "publishedBy"] },
    { name := "worksCreatedPublishedInfluencedByAgent", scope := "work",
      form := .anyOf [.byId "createdBy", .byId "publishedBy", .byId "creationInfluencedBy"] },
    { name := "worksRelatedToConcept", scope := "work",
      summary := "Works classified as, in the language of, or about the concept, or a",
      form := .anyOf [
        .hop "classification" conceptOrInfluenced,
        .hop "language" conceptOrInfluenced,
        .hop "aboutConcept" conceptOrInfluenced] },
    { name := "worksRelatedToPlace", scope := "work",
      form := .anyOf [.byId "aboutPlace", .byId "createdAt", .byId "publishedAt"] },
    { name := "worksInWork", scope := "work", summary := "Works that are part of the work.",
      form := .byId "partOfWork" },
    { name := "worksContainingWork", scope := "work", form := .byId "containsWork" },
    { name := "worksSubjectOfWork", scope := "work", form := .byId "subjectOfWork" },
    { name := "itemsSubjectOfWork", scope := "work", summary := "Works whose subject is the item.",
      form := .byId "subjectOfItem" }
  ]

def all : List Blueprint :=
  agents ++ archives ++ concepts ++ events ++ items ++ places ++ sets ++ works

end Catalogue

def Library.packaged : Library := .ofList (Catalogue.all.map Blueprint.template)

/-- The library, or the packaged one in place of a library without templates. -/
def Library.orPackaged (library : Library) : Library :=
  if library.templates.isEmpty then .packaged else library

end ScopedSearch
