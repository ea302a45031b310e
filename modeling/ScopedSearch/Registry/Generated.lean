import ScopedSearch.Term

/-!
# Generated search terms

Terms that supplement the declared ones, most of them the ways back of declared hops.
-/

namespace ScopedSearch.Registry.Generated

def agentTerms : List Declaration :=
  [
    { scope := .agent, name := "founded", pattern := .hopWithField,
      predicates := ["lux(\"agentOfBeginning\")"], targetScope := some .agent,
      inverseName := some "foundedBy", indexReferences := ["agentPrimaryName"] },
    { scope := .agent, name := "memberOfInverse", pattern := .hopWithField,
      predicates := ["crm(\"P107i_is_current_or_former_member_of\")"], targetScope := some .agent,
      inverseName := some "memberOf", indexReferences := ["agentPrimaryName"] },
    { scope := .agent, name := "influenced", pattern := .hopWithField,
      predicates := ["lux(\"influenced_by_agent\")"], targetScope := some .concept,
      inverseName := some "influencedByAgent", indexReferences := ["conceptPrimaryName"] },
    { scope := .agent, name := "carriedOut", pattern := .hopWithField,
      predicates := ["lux(\"eventCarriedOutBy\")"], targetScope := some .event,
      inverseName := some "carriedOutBy", indexReferences := ["eventPrimaryName"] },
    { scope := .agent, name := "encountered", pattern := .hopWithField,
      predicates := ["lux(\"agentOfEncounter\")"], targetScope := some .item,
      inverseName := some "encounteredBy", indexReferences := ["itemPrimaryName"] },
    { scope := .agent, name := "produced", pattern := .hopWithField,
      predicates := ["lux(\"agentOfProduction\")"], targetScope := some .item,
      inverseName := some "producedBy", indexReferences := ["itemPrimaryName"] },
    { scope := .agent, name := "influencedProduction", pattern := .hopWithField,
      predicates := ["lux(\"agentInfluencedProduction\")"], targetScope := some .item,
      inverseName := some "productionInfluencedBy", indexReferences := ["itemPrimaryName"] },
    { scope := .agent, name := "curated", pattern := .hopWithField,
      predicates := ["lux(\"agentOfCuration\")"], targetScope := some .set,
      inverseName := some "curatedBy", indexReferences := ["setPrimaryName"] },
    { scope := .agent, name := "subjectOfAgent", pattern := .hopWithField,
      predicates := ["lux(\"about_or_depicts_agent\")"], targetScope := some .work,
      inverseName := some "aboutAgent", indexReferences := ["workPrimaryName"] },
    { scope := .agent, name := "created", pattern := .hopWithField,
      predicates := ["lux(\"agentOfCreation\")"], targetScope := some .work,
      inverseName := some "createdBy", indexReferences := ["workPrimaryName"] },
    { scope := .agent, name := "influencedCreation", pattern := .hopWithField,
      predicates := ["lux(\"agentInfluencedCreation\")"], targetScope := some .work,
      inverseName := some "creationInfluencedBy", indexReferences := ["workPrimaryName"] },
    { scope := .agent, name := "published", pattern := .hopWithField,
      predicates := ["lux(\"agentOfPublication\")"], targetScope := some .work,
      inverseName := some "publishedBy", indexReferences := ["workPrimaryName"] }
  ]

def conceptTerms : List Declaration :=
  [
    { scope := .concept, name := "classificationOfAgent", pattern := .hopWithField,
      predicates := ["lux(\"agentClassifiedAs\")"], targetScope := some .agent,
      inverseName := some "classification", indexReferences := ["agentPrimaryName"] },
    { scope := .concept, name := "genderOf", pattern := .hopWithField,
      predicates := ["lux(\"agentGender\")"], targetScope := some .agent,
      inverseName := some "gender", indexReferences := ["agentPrimaryName"] },
    { scope := .concept, name := "nationalityOf", pattern := .hopWithField,
      predicates := ["lux(\"agentNationality\")"], targetScope := some .agent,
      inverseName := some "nationality", indexReferences := ["agentPrimaryName"] },
    { scope := .concept, name := "occupationOf", pattern := .hopWithField,
      predicates := ["lux(\"agentOccupation\")"], targetScope := some .agent,
      inverseName := some "occupation", indexReferences := ["agentPrimaryName"] },
    { scope := .concept, name := "narrower", pattern := .hopWithField,
      predicates := ["skos(\"broader\")"], targetScope := some .concept,
      inverseName := some "broader", indexReferences := ["conceptPrimaryName"] },
    { scope := .concept, name := "classificationOfConcept", pattern := .hopWithField,
      predicates := ["lux(\"conceptClassifiedAs\")"], targetScope := some .concept,
      inverseName := some "classification", indexReferences := ["conceptPrimaryName"] },
    { scope := .concept, name := "influenced", pattern := .hopWithField,
      predicates := ["lux(\"influenced_by_concept\")"], targetScope := some .concept,
      inverseName := some "influencedByConcept", indexReferences := ["conceptPrimaryName"] },
    { scope := .concept, name := "classificationOfEvent", pattern := .hopWithField,
      predicates := ["lux(\"eventClassifiedAs\")"], targetScope := some .event,
      inverseName := some "classification", indexReferences := ["eventPrimaryName"] },
    { scope := .concept, name := "classificationOfItem", pattern := .hopWithField,
      predicates := ["lux(\"itemClassifiedAs\")"], targetScope := some .item,
      inverseName := some "classification", indexReferences := ["itemPrimaryName"] },
    { scope := .concept, name := "materialOfItem", pattern := .hopWithField,
      predicates := ["crm(\"P45_consists_of\")"], targetScope := some .item,
      inverseName := some "material", indexReferences := ["itemPrimaryName"] },
    { scope := .concept, name := "usedToProduce", pattern := .hopWithField,
      predicates := ["lux(\"techniqueOfProduction\")"], targetScope := some .item,
      inverseName := some "producedUsing", indexReferences := ["itemPrimaryName"] },
    { scope := .concept, name := "classificationOfPlace", pattern := .hopWithField,
      predicates := ["lux(\"placeClassifiedAs\")"], targetScope := some .place,
      inverseName := some "classification", indexReferences := ["placePrimaryName"] },
    { scope := .concept, name := "classificationOfReference", pattern := .hopWithField,
      predicates := ["lux(\"referenceClassifiedAs\")"], targetScope := some .reference,
      inverseName := some "classification", indexReferences := ["referencePrimaryName"] },
    { scope := .concept, name := "classificationOfSet", pattern := .hopWithField,
      predicates := ["lux(\"setClassifiedAs\")"], targetScope := some .set,
      inverseName := some "classification", indexReferences := ["setPrimaryName"] },
    { scope := .concept, name := "subjectOfConcept", pattern := .hopWithField,
      predicates := ["lux(\"about_or_depicts_concept\")"], targetScope := some .work,
      inverseName := some "aboutConcept", indexReferences := ["workPrimaryName"] },
    { scope := .concept, name := "classificationOfWork", pattern := .hopWithField,
      predicates := ["lux(\"workClassifiedAs\")"], targetScope := some .work,
      inverseName := some "classification", indexReferences := ["workPrimaryName"] },
    { scope := .concept, name := "languageOf", pattern := .hopWithField,
      predicates := ["crm(\"P72_has_language\")"], targetScope := some .work,
      inverseName := some "language", indexReferences := ["workPrimaryName"] }
  ]

def eventTerms : List Declaration :=
  [
    { scope := .event, name := "influenced", pattern := .hopWithField,
      predicates := ["lux(\"influenced_by_activity\")"], targetScope := some .concept,
      inverseName := some "influencedByEvent", indexReferences := ["conceptPrimaryName"] }
  ]

def placeTerms : List Declaration :=
  [
    { scope := .place, name := "activePlaceOfAgent", pattern := .hopWithField,
      predicates := ["lux(\"placeOfActivity\")"], targetScope := some .agent,
      inverseName := some "activeAt", indexReferences := ["agentPrimaryName"] },
    { scope := .place, name := "endPlaceOfAgent", pattern := .hopWithField,
      predicates := ["lux(\"placeOfEnding\")"], targetScope := some .agent,
      inverseName := some "endAt", indexReferences := ["agentPrimaryName"] },
    { scope := .place, name := "startPlaceOfAgent", pattern := .hopWithField,
      predicates := ["lux(\"placeOfBeginning\")"], targetScope := some .agent,
      inverseName := some "startAt", indexReferences := ["agentPrimaryName"] },
    { scope := .place, name := "influenced", pattern := .hopWithField,
      predicates := ["lux(\"influenced_by_place\")"], targetScope := some .concept,
      inverseName := some "influencedByPlace", indexReferences := ["conceptPrimaryName"] },
    { scope := .place, name := "placeOfEvent", pattern := .hopWithField,
      predicates := ["lux(\"eventTookPlaceAt\")"], targetScope := some .event,
      inverseName := some "tookPlaceAt", indexReferences := ["eventPrimaryName"] },
    { scope := .place, name := "encounteredHere", pattern := .hopWithField,
      predicates := ["lux(\"placeOfEncounter\")"], targetScope := some .item,
      inverseName := some "encounteredAt", indexReferences := ["itemPrimaryName"] },
    { scope := .place, name := "producedHere", pattern := .hopWithField,
      predicates := ["lux(\"placeOfProduction\")"], targetScope := some .item,
      inverseName := some "producedAt", indexReferences := ["itemPrimaryName"] },
    { scope := .place, name := "subjectOfPlace", pattern := .hopWithField,
      predicates := ["lux(\"about_or_depicts_place\")"], targetScope := some .work,
      inverseName := some "aboutPlace", indexReferences := ["workPrimaryName"] },
    { scope := .place, name := "createdHere", pattern := .hopWithField,
      predicates := ["lux(\"placeOfCreation\")"], targetScope := some .work,
      inverseName := some "createdAt", indexReferences := ["workPrimaryName"] },
    { scope := .place, name := "publishedHere", pattern := .hopWithField,
      predicates := ["lux(\"placeOfPublication\")"], targetScope := some .work,
      inverseName := some "publishedAt", indexReferences := ["workPrimaryName"] }
  ]

def setTerms : List Declaration :=
  [
    { scope := .set, name := "usedForEvent", pattern := .hopWithField,
      predicates := ["crm(\"P16_used_specific_object\")"], targetScope := some .event,
      inverseName := some "used", indexReferences := ["eventPrimaryName"] },
    { scope := .set, name := "containingItem", pattern := .hopWithField,
      predicates := ["la(\"member_of\")"], targetScope := some .item,
      inverseName := some "memberOf", indexReferences := ["itemPrimaryName"] },
    { scope := .set, name := "containingSet", pattern := .hopWithField,
      predicates := ["la(\"member_of\")"], targetScope := some .set,
      inverseName := some "memberOf", indexReferences := ["setPrimaryName"] }
  ]

def workTerms : List Declaration :=
  [
    { scope := .work, name := "carriedBy", pattern := .hopWithField,
      predicates := ["lux(\"carries_or_shows\")"], targetScope := some .item,
      inverseName := some "carries", indexReferences := ["itemPrimaryName"] }
  ]

def all : List Declaration :=
  agentTerms
    ++ conceptTerms
    ++ eventTerms
    ++ placeTerms
    ++ setTerms
    ++ workTerms

end ScopedSearch.Registry.Generated
