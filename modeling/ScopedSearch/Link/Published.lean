import ScopedSearch.Entries
import ScopedSearch.Link
import ScopedSearch.Scope

/-!
# Published links

The links that pages show, by relation; which of them are counted for a record, by the scope of the
record; and the scope of a record by its type.
-/

namespace ScopedSearch.Link

/-- Events from the earliest to the latest. -/
def byEventDate : Endpoint := .search (some "eventStartDate:asc")

/-- The links on the pages of agent records. -/
def agentLinks : Entries String Link :=
  [
    ("lux:agentAgentMemberOf", { template := "agentsMemberOfGroup" }),
    ("lux:agentCreatedPublishedWork", { template := "worksCreatedPublishedByAgent" }),
    ("lux:agentEventsCarriedOut",
      { template := "eventsCarriedOutByAgent", endpoint := byEventDate }),
    ("lux:agentEventsUsingProducedObjects",
      { template := "eventsUsingAgentsProducedObjects", endpoint := byEventDate }),
    ("lux:agentFoundedByAgent",
      { template := "agentsFoundedByAgent", endpoint := .search (some "anySortName:asc") }),
    ("lux:agentInfluencedConcepts", { template := "conceptsInfluencedByAgent" }),
    ("lux:agentItemEncounteredTime",
      { template := "itemsEncounteredByAgent", endpoint := .facet "itemEncounteredDate" }),
    ("lux:agentItemMadeTime",
      { template := "itemsProducedByAgent", endpoint := .facet "itemProductionDate" }),
    ("lux:agentMadeDiscoveredItem", { template := "itemsProducedEncounteredByAgent" }),
    ("lux:agentRelatedAgents",
      { template := "agentsRelatedToAgent", endpoint := .relatedList "relatedToAgent" }),
    ("lux:agentRelatedConcepts",
      { template := "conceptsRelatedToAgent", endpoint := .relatedList "relatedToAgent" }),
    ("lux:agentRelatedItemTypes",
      { template := "itemsProducedByAgent", endpoint := .facet "itemTypeId" }),
    ("lux:agentRelatedMaterials",
      { template := "itemsProducedByAgent", endpoint := .facet "itemMaterialId" }),
    ("lux:agentRelatedPlaces",
      { template := "placesRelatedToAgent", endpoint := .relatedList "relatedToAgent" }),
    ("lux:agentRelatedSubjects",
      { template := "worksCreatedByAgent", endpoint := .facet "workAboutConceptId" }),
    ("lux:agentRelatedWorkTypes",
      { template := "worksCreatedByAgent", endpoint := .facet "workTypeId" }),
    ("lux:agentWorkAbout", { template := "worksAboutAgent" }),
    ("lux:agentWorkCreatedTime",
      { template := "worksCreatedPublishedByAgent", endpoint := .facet "workCreationDate" }),
    ("lux:agentWorkPublishedTime",
      { template := "worksCreatedPublishedByAgent", endpoint := .facet "workPublicationDate" }),
    ("lux:departmentItems", { template := "itemsForDepartment" })
  ]

/-- The links on the pages of concept records. -/
def conceptLinks : Entries String Link :=
  [
    ("lux:conceptChildren", { template := "childrenOfConcept" }),
    ("lux:conceptDepictedAgentFromRelatedWorks",
      { template := "worksRelatedToConcept", endpoint := .facet "workAboutAgentId" }),
    ("lux:conceptInfluencedConcepts", { template := "conceptsInfluencedByConcept" }),
    ("lux:conceptItemEncounteredTime",
      { template := "itemsOfTypeOrMaterial", endpoint := .facet "itemEncounteredDate" }),
    ("lux:conceptItemMadeTime",
      { template := "itemsOfTypeOrMaterial", endpoint := .facet "itemProductionDate" }),
    ("lux:conceptItemTypes",
      { template := "itemsOfTypeOrMaterial", endpoint := .facet "itemTypeId" }),
    ("lux:conceptRelatedAgents",
      { template := "agentsRelatedToConcept", endpoint := .relatedList "relatedToConcept" }),
    ("lux:conceptRelatedConcepts",
      { template := "conceptsRelatedToConcept", endpoint := .relatedList "relatedToConcept" }),
    ("lux:conceptRelatedItems", { template := "itemsOfTypeOrMaterial" }),
    ("lux:conceptRelatedPlaces",
      { template := "placesRelatedToConcept", endpoint := .relatedList "relatedToConcept" }),
    ("lux:conceptRelatedWorks", { template := "worksRelatedToConcept" }),
    ("lux:conceptWorkCreatedTime",
      { template := "worksRelatedToConcept", endpoint := .facet "workCreationDate" }),
    ("lux:conceptWorkPublishedTime",
      { template := "worksRelatedToConcept", endpoint := .facet "workPublicationDate" }),
    ("lux:conceptWorkTypes",
      { template := "worksRelatedToConcept", endpoint := .facet "workTypeId" }),
    ("lux:genderForAgent", { template := "agentsWithGender" }),
    ("lux:nationalityForAgent", { template := "agentsWithNationality" }),
    ("lux:occupationForAgent", { template := "agentsWithOccupation" }),
    ("lux:typeForAgent", { template := "agentsClassifiedAs" }),
    ("lux:typeForEvent", { template := "eventsClassifiedAs" }),
    ("lux:typeForPlace", { template := "placesClassifiedAs" })
  ]

/-- The links on the pages of event records. -/
def eventLinks : Entries String Link :=
  [
    ("lux:eventConceptsInfluencedBy", { template := "conceptsSubjectsForPeriod" }),
    ("lux:eventConceptsOfItems", { template := "conceptsSubjectsForExhibition" }),
    ("lux:eventIncludedItems", { template := "itemsForEvent" }),
    ("lux:eventItemMaterials",
      { template := "itemsForEvent", endpoint := .facet "itemMaterialId" }),
    ("lux:eventObjectTypesUsed", { template := "itemsForEvent", endpoint := .facet "itemTypeId" }),
    ("lux:eventObjectTypesAbout",
      { template := "itemsInfluencedByEvent", endpoint := .facet "itemTypeId" }),
    ("lux:eventWorksAbout", { template := "worksAboutConceptsInfluencedByEvent" }),
    ("lux:eventWorkTypesUsed", { template := "worksForEvent", endpoint := .facet "workTypeId" }),
    ("lux:eventWorkTypesAbout",
      { template := "worksAboutConceptsInfluencedByEvent", endpoint := .facet "workTypeId" })
  ]

/-- The links on the pages of item records. -/
def itemLinks : Entries String Link :=
  [
    ("lux:itemArchive", { template := "archivesWithItem" }),
    ("lux:itemEvents", { template := "eventsWithItem", endpoint := byEventDate }),
    ("lux:itemDepartment", { template := "departmentsWithItem" }),
    ("lux:itemUnit", { template := "itemById", endpoint := .facet "responsibleUnits" })
  ]

/-- The links on the pages of place records. -/
def placeLinks : Entries String Link :=
  [
    ("lux:placeActiveAgent", { template := "agentsActiveAtPlace" }),
    ("lux:placeBornAgent", { template := "agentsBornAtPlace" }),
    ("lux:placeCreatedWork", { template := "worksCreatedAtPlace" }),
    ("lux:placeDepictedAgentsFromRelatedWorks",
      { template := "worksRelatedToPlace", endpoint := .facet "workAboutAgentId" }),
    ("lux:placeDepictingWork",
      { template := "worksRelatedToPlace", endpoint := .facet "workAboutConceptId",
        estimate := some "worksCreatedAtPlace" }),
    ("lux:placeDiedAgent", { template := "agentsDiedAtPlace" }),
    ("lux:placeEvents", { template := "eventsHappenedAtPlace" }),
    ("lux:placeInfluencedConcepts", { template := "conceptsInfluencedByPlace" }),
    ("lux:placeItemTypes", { template := "itemsProducedAtPlace", endpoint := .facet "itemTypeId" }),
    ("lux:placeMadeDiscoveredItem", { template := "itemsProducedEncounteredAtPlace" }),
    ("lux:placeParts", { template := "partsOfPlace" }),
    ("lux:placePublishedWork", { template := "worksPublishedAtPlace" }),
    ("lux:placeRelatedAgents",
      { template := "agentsRelatedToPlace", endpoint := .relatedList "relatedToPlace" }),
    ("lux:placeRelatedConcepts",
      { template := "conceptsRelatedToPlace", endpoint := .relatedList "relatedToPlace" }),
    ("lux:placeRelatedPlaces",
      { template := "placesRelatedToPlace", endpoint := .relatedList "relatedToPlace" }),
    ("lux:placeWorkAbout", { template := "worksAboutPlace" }),
    ("lux:placeWorkTypes", { template := "worksRelatedToPlace", endpoint := .facet "workTypeId" })
  ]

/-- The links on the pages of set records. -/
def setLinks : Entries String Link :=
  [
    ("lux:setDepartment", { template := "departmentsCuratedSet" }),
    ("lux:setIncludedItems", { template := "itemsInSet" }),
    ("lux:setIncludedWorks", { template := "worksInSet" }),
    ("lux:setItemEncounteredTime",
      { template := "itemsInSet", endpoint := .facet "itemEncounteredDate" }),
    ("lux:setItemMadeTime", { template := "itemsInSet", endpoint := .facet "itemProductionDate" }),
    ("lux:setItemTypes", { template := "itemsInSet", endpoint := .facet "itemTypeId" }),
    ("lux:setUnit", { template := "workById", endpoint := .facet "responsibleUnits" })
  ]

/-- The links on the pages of work records. -/
def workLinks : Entries String Link :=
  [
    ("lux:workCarriedBy", { template := "itemsCarryingWork" }),
    ("lux:workShownBy", { template := "itemsCarryingWork" })
  ]

def published : Entries String Link :=
  agentLinks ++ conceptLinks ++ eventLinks ++ itemLinks ++ placeLinks ++ setLinks ++ workLinks

/-- The relations of the links that are counted for a record of a scope. A set is also a work. -/
def counted : Scope → List String
  | .agent =>
    ["lux:agentAgentMemberOf", "lux:agentCreatedPublishedWork", "lux:agentEventsCarriedOut",
      "lux:agentEventsUsingProducedObjects", "lux:agentFoundedByAgent",
      "lux:agentInfluencedConcepts", "lux:agentItemEncounteredTime", "lux:agentItemMadeTime",
      "lux:agentMadeDiscoveredItem", "lux:agentRelatedAgents", "lux:agentRelatedConcepts",
      "lux:agentRelatedItemTypes", "lux:agentRelatedMaterials", "lux:agentRelatedPlaces",
      "lux:agentRelatedSubjects", "lux:agentRelatedWorkTypes", "lux:agentWorkAbout",
      "lux:agentWorkCreatedTime", "lux:agentWorkPublishedTime", "lux:departmentItems"]
  | .concept =>
    ["lux:conceptChildren", "lux:conceptDepictedAgentFromRelatedWorks",
      "lux:conceptInfluencedConcepts", "lux:conceptItemEncounteredTime",
      "lux:conceptItemMadeTime", "lux:conceptItemTypes", "lux:conceptRelatedAgents",
      "lux:conceptRelatedConcepts", "lux:conceptRelatedItems", "lux:conceptRelatedPlaces",
      "lux:conceptRelatedWorks", "lux:conceptWorkCreatedTime", "lux:conceptWorkPublishedTime",
      "lux:conceptWorkTypes", "lux:genderForAgent", "lux:nationalityForAgent",
      "lux:occupationForAgent", "lux:typeForAgent", "lux:typeForEvent", "lux:typeForPlace"]
  | .event =>
    ["lux:eventConceptsInfluencedBy", "lux:eventConceptsOfItems", "lux:eventIncludedItems",
      "lux:eventItemMaterials", "lux:eventObjectTypesUsed", "lux:eventObjectTypesAbout",
      "lux:eventWorksAbout", "lux:eventWorkTypesUsed", "lux:eventWorkTypesAbout"]
  | .item =>
    ["lux:itemArchive", "lux:itemEvents", "lux:itemDepartment", "lux:itemUnit"]
  | .place =>
    ["lux:placeActiveAgent", "lux:placeBornAgent", "lux:placeCreatedWork",
      "lux:placeDepictingWork", "lux:placeDepictedAgentsFromRelatedWorks", "lux:placeDiedAgent",
      "lux:placeEvents", "lux:placeInfluencedConcepts", "lux:placeItemTypes",
      "lux:placeMadeDiscoveredItem", "lux:placeParts", "lux:placePublishedWork",
      "lux:placeRelatedAgents", "lux:placeRelatedConcepts", "lux:placeRelatedPlaces",
      "lux:placeWorkAbout", "lux:placeWorkTypes"]
  | .set =>
    ["lux:setDepartment", "lux:setIncludedItems", "lux:setIncludedWorks",
      "lux:setItemEncounteredTime", "lux:setItemMadeTime", "lux:setItemTypes", "lux:setUnit",
      "lux:workCarriedBy", "lux:workShownBy"]
  | .work =>
    ["lux:workCarriedBy", "lux:workShownBy"]
  | .reference => []

/-- The types of the records of each scope. The first scope that has a type counts. -/
def recordTypes : List (Scope × List String) :=
  [
    (.agent, ["Group", "Person"]),
    (.concept, ["Currency", "Language", "Material", "MeasurementUnit", "Type"]),
    (.event, ["Activity", "Period"]),
    (.item, ["DigitalObject", "HumanMadeObject"]),
    (.place, ["Place"]),
    (.set, ["Set"]),
    (.work, ["LinguisticObject", "Set", "VisualItem"])
  ]

/-- The scope of the records of a type. -/
def scopeOfType? (type : String) : Option Scope :=
  (recordTypes.find? fun entry => entry.2.contains type).map Prod.fst

end ScopedSearch.Link
