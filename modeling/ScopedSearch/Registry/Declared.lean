import ScopedSearch.Term

/-!
# Declared search terms

The terms that the search declares itself, scope by scope. The bound of a related list counts hops:
a bound of 2 reaches a related record directly or through one of the scopes in between.
-/

namespace ScopedSearch.Registry.Declared

def agentTerms : List Declaration :=
  [
    { scope := .agent, name := "activeAt", pattern := .hopWithField,
      predicates := ["lux(\"placeOfActivity\")"], targetScope := some .place,
      inverseName := some "activePlaceOfAgent", indexReferences := ["placePrimaryName"] },
    { scope := .agent, name := "classification", pattern := .hopWithField,
      predicates := ["lux(\"agentClassifiedAs\")"], targetScope := some .concept,
      inverseName := some "classificationOfAgent", indexReferences := ["conceptPrimaryName"] },
    { scope := .agent, name := "endAt", pattern := .hopWithField,
      predicates := ["lux(\"placeOfEnding\")"], targetScope := some .place,
      inverseName := some "endPlaceOfAgent", indexReferences := ["placePrimaryName"] },
    { scope := .agent, name := "foundedBy", pattern := .hopWithField,
      predicates := ["lux(\"agentOfBeginning\")"], targetScope := some .agent,
      inverseName := some "founded", indexReferences := ["agentPrimaryName"],
      idIndexReferences := ["agentFounderId"] },
    { scope := .agent, name := "gender", pattern := .hopWithField,
      predicates := ["lux(\"agentGender\")"], targetScope := some .concept,
      inverseName := some "genderOf", indexReferences := ["conceptPrimaryName"] },
    { scope := .agent, name := "id", pattern := .documentId },
    { scope := .agent, name := "memberOf", pattern := .hopWithField,
      predicates := ["crm(\"P107i_is_current_or_former_member_of\")"], targetScope := some .agent,
      inverseName := some "memberOfInverse", indexReferences := ["agentPrimaryName"] },
    { scope := .agent, name := "name", pattern := .indexedWord, indexReferences := ["agentName"],
      scalarType := some .string },
    { scope := .agent, name := "nationality", pattern := .hopWithField,
      predicates := ["lux(\"agentNationality\")"], targetScope := some .concept,
      inverseName := some "nationalityOf", indexReferences := ["conceptPrimaryName"] },
    { scope := .agent, name := "occupation", pattern := .hopWithField,
      predicates := ["lux(\"agentOccupation\")"], targetScope := some .concept,
      inverseName := some "occupationOf", indexReferences := ["conceptPrimaryName"] },
    { scope := .agent, name := "professionalActivity", pattern := .indexedValue,
      indexReferences := ["conceptPrimaryName"], scalarType := some .string },
    { scope := .agent, name := "relatedToAgent", pattern := .relatedList,
      targetScope := some .agent, inBetweenScopes := [.item, .work], maxLevel := some 2 },
    { scope := .agent, name := "relatedToConcept", pattern := .relatedList,
      targetScope := some .concept, inBetweenScopes := [.item, .work], maxLevel := some 2 },
    { scope := .agent, name := "relatedToEvent", pattern := .relatedList,
      targetScope := some .event, inBetweenScopes := [.item, .work, .set], maxLevel := some 3 },
    { scope := .agent, name := "relatedToPlace", pattern := .relatedList,
      targetScope := some .place, inBetweenScopes := [.item, .work], maxLevel := some 2 },
    { scope := .agent, name := "similar", pattern := .similar },
    { scope := .agent, name := "startAt", pattern := .hopWithField,
      predicates := ["lux(\"placeOfBeginning\")"], targetScope := some .place,
      inverseName := some "startPlaceOfAgent", indexReferences := ["placePrimaryName"] },
    { scope := .agent, name := "text", pattern := .text, indexReferences := ["agentAnyText"],
      scalarType := some .string }
  ]

def conceptTerms : List Declaration :=
  [
    { scope := .concept, name := "broader", pattern := .hopWithField,
      predicates := ["skos(\"broader\")"], targetScope := some .concept,
      inverseName := some "narrower", indexReferences := ["conceptPrimaryName"] },
    { scope := .concept, name := "classification", pattern := .hopWithField,
      predicates := ["lux(\"conceptClassifiedAs\")"], targetScope := some .concept,
      inverseName := some "classificationOfConcept", indexReferences := ["conceptPrimaryName"] },
    { scope := .concept, name := "id", pattern := .documentId },
    { scope := .concept, name := "influencedByAgent", pattern := .hopWithField,
      predicates := ["lux(\"influenced_by_agent\")"], targetScope := some .agent,
      inverseName := some "influenced", indexReferences := ["agentPrimaryName"],
      idIndexReferences := ["conceptInfluencedByAgentId"] },
    { scope := .concept, name := "influencedByConcept", pattern := .hopWithField,
      predicates := ["lux(\"influenced_by_concept\")"], targetScope := some .concept,
      inverseName := some "influenced", indexReferences := ["conceptPrimaryName"],
      idIndexReferences := ["conceptInfluencedByConceptId"] },
    { scope := .concept, name := "influencedByEvent", pattern := .hopWithField,
      predicates := ["lux(\"influenced_by_activity\")"], targetScope := some .event,
      inverseName := some "influenced", indexReferences := ["eventPrimaryName"],
      idIndexReferences := ["conceptInfluencedByEventId"] },
    { scope := .concept, name := "influencedByPlace", pattern := .hopWithField,
      predicates := ["lux(\"influenced_by_place\")"], targetScope := some .place,
      inverseName := some "influenced", indexReferences := ["placePrimaryName"],
      idIndexReferences := ["conceptInfluencedByPlaceId"] },
    { scope := .concept, name := "name", pattern := .indexedWord,
      indexReferences := ["conceptName"], scalarType := some .string },
    { scope := .concept, name := "relatedToAgent", pattern := .relatedList,
      targetScope := some .agent, inBetweenScopes := [.item, .work], maxLevel := some 2 },
    { scope := .concept, name := "relatedToConcept", pattern := .relatedList,
      targetScope := some .concept, inBetweenScopes := [.item, .work], maxLevel := some 2 },
    { scope := .concept, name := "relatedToEvent", pattern := .relatedList,
      targetScope := some .event, inBetweenScopes := [.item, .work, .set], maxLevel := some 3 },
    { scope := .concept, name := "relatedToPlace", pattern := .relatedList,
      targetScope := some .place, inBetweenScopes := [.item, .work], maxLevel := some 2 },
    { scope := .concept, name := "text", pattern := .text, indexReferences := ["conceptAnyText"],
      scalarType := some .string }
  ]

def eventTerms : List Declaration :=
  [
    { scope := .event, name := "carriedOutBy", pattern := .hopWithField,
      predicates := ["lux(\"eventCarriedOutBy\")"], targetScope := some .agent,
      inverseName := some "carriedOut", indexReferences := ["agentPrimaryName"] },
    { scope := .event, name := "classification", pattern := .hopWithField,
      predicates := ["lux(\"eventClassifiedAs\")"], targetScope := some .concept,
      inverseName := some "classificationOfEvent", indexReferences := ["conceptPrimaryName"] },
    { scope := .event, name := "id", pattern := .documentId },
    { scope := .event, name := "name", pattern := .indexedWord, indexReferences := ["eventName"],
      scalarType := some .string },
    { scope := .event, name := "text", pattern := .text, indexReferences := ["eventAnyText"],
      scalarType := some .string },
    { scope := .event, name := "tookPlaceAt", pattern := .hopWithField,
      predicates := ["lux(\"eventTookPlaceAt\")"], targetScope := some .place,
      inverseName := some "placeOfEvent", indexReferences := ["placePrimaryName"] },
    { scope := .event, name := "used", pattern := .hopWithField,
      predicates := ["crm(\"P16_used_specific_object\")"], targetScope := some .set,
      inverseName := some "usedForEvent", indexReferences := ["setPrimaryName"] }
  ]

def itemTerms : List Declaration :=
  [
    { scope := .item, name := "carries", pattern := .hopWithField,
      predicates := ["lux(\"carries_or_shows\")"], targetScope := some .work,
      inverseName := some "carriedBy", indexReferences := ["workPrimaryName"] },
    { scope := .item, name := "classification", pattern := .hopWithField,
      predicates := ["lux(\"itemClassifiedAs\")"], targetScope := some .concept,
      inverseName := some "classificationOfItem", indexReferences := ["conceptPrimaryName"] },
    { scope := .item, name := "encounteredAt", pattern := .hopWithField,
      predicates := ["lux(\"placeOfEncounter\")"], targetScope := some .place,
      inverseName := some "encounteredHere", indexReferences := ["placePrimaryName"] },
    { scope := .item, name := "encounteredBy", pattern := .hopWithField,
      predicates := ["lux(\"agentOfEncounter\")"], targetScope := some .agent,
      inverseName := some "encountered", indexReferences := ["agentPrimaryName"] },
    { scope := .item, name := "id", pattern := .documentId },
    { scope := .item, name := "material", pattern := .hopWithField,
      predicates := ["crm(\"P45_consists_of\")"], targetScope := some .concept,
      inverseName := some "materialOfItem", indexReferences := ["conceptPrimaryName"] },
    { scope := .item, name := "memberOf", pattern := .hopWithField,
      predicates := ["la(\"member_of\")"], targetScope := some .set,
      inverseName := some "containingItem", indexReferences := ["setPrimaryName"] },
    { scope := .item, name := "name", pattern := .indexedWord, indexReferences := ["itemName"],
      scalarType := some .string },
    { scope := .item, name := "producedAt", pattern := .hopWithField,
      predicates := ["lux(\"placeOfProduction\")"], targetScope := some .place,
      inverseName := some "producedHere", indexReferences := ["placePrimaryName"] },
    { scope := .item, name := "producedBy", pattern := .hopWithField,
      predicates := ["lux(\"agentOfProduction\")"], targetScope := some .agent,
      inverseName := some "produced", indexReferences := ["agentPrimaryName"] },
    { scope := .item, name := "productionInfluencedBy", pattern := .hopWithField,
      predicates := ["lux(\"agentInfluencedProduction\")"], targetScope := some .agent,
      inverseName := some "influencedProduction", indexReferences := ["agentPrimaryName"] },
    { scope := .item, name := "producedUsing", pattern := .hopWithField,
      predicates := ["lux(\"techniqueOfProduction\")"], targetScope := some .concept,
      inverseName := some "usedToProduce", indexReferences := ["conceptPrimaryName"] },
    { scope := .item, name := "similar", pattern := .similar },
    { scope := .item, name := "text", pattern := .text, indexReferences := ["itemAnyText"],
      scalarType := some .string }
  ]

def placeTerms : List Declaration :=
  [
    { scope := .place, name := "classification", pattern := .hopWithField,
      predicates := ["lux(\"placeClassifiedAs\")"], targetScope := some .concept,
      inverseName := some "classificationOfPlace", indexReferences := ["conceptPrimaryName"] },
    { scope := .place, name := "id", pattern := .documentId },
    { scope := .place, name := "name", pattern := .indexedWord, indexReferences := ["placeName"],
      scalarType := some .string },
    { scope := .place, name := "partOf", pattern := .hopWithField,
      predicates := ["crm(\"P89_falls_within\")"], targetScope := some .place,
      indexReferences := ["placePrimaryName"] },
    { scope := .place, name := "relatedToAgent", pattern := .relatedList,
      targetScope := some .agent, inBetweenScopes := [.item, .work], maxLevel := some 2 },
    { scope := .place, name := "relatedToConcept", pattern := .relatedList,
      targetScope := some .concept, inBetweenScopes := [.item, .work], maxLevel := some 2 },
    { scope := .place, name := "relatedToEvent", pattern := .relatedList,
      targetScope := some .event, inBetweenScopes := [.item, .work, .set], maxLevel := some 3 },
    { scope := .place, name := "relatedToPlace", pattern := .relatedList,
      targetScope := some .place, inBetweenScopes := [.item, .work], maxLevel := some 2 },
    { scope := .place, name := "text", pattern := .text, indexReferences := ["placeAnyText"],
      scalarType := some .string }
  ]

def referenceTerms : List Declaration :=
  [
    { scope := .reference, name := "classification", pattern := .hopWithField,
      predicates := ["lux(\"referenceClassifiedAs\")"], targetScope := some .concept,
      inverseName := some "classificationOfReference", indexReferences := ["conceptPrimaryName"],
      idIndexReferences := ["referenceTypeId"] },
    { scope := .reference, name := "id", pattern := .documentId },
    { scope := .reference, name := "identifier", pattern := .indexedValue,
      indexReferences := ["referenceIdentifier"], scalarType := some .string },
    { scope := .reference, name := "name", pattern := .indexedWord,
      indexReferences := ["referenceName"], scalarType := some .string },
    { scope := .reference, name := "text", pattern := .text,
      indexReferences := ["referenceAnyText"], scalarType := some .string }
  ]

def setTerms : List Declaration :=
  [
    { scope := .set, name := "classification", pattern := .hopWithField,
      predicates := ["lux(\"setClassifiedAs\")"], targetScope := some .concept,
      inverseName := some "classificationOfSet", indexReferences := ["conceptPrimaryName"],
      idIndexReferences := ["setTypeId"] },
    { scope := .set, name := "curatedBy", pattern := .hopWithField,
      predicates := ["lux(\"agentOfCuration\")"], targetScope := some .agent,
      inverseName := some "curated", indexReferences := ["agentPrimaryName"] },
    { scope := .set, name := "id", pattern := .documentId },
    { scope := .set, name := "identifier", pattern := .indexedValue,
      indexReferences := ["setIdentifier"], scalarType := some .string },
    { scope := .set, name := "memberOf", pattern := .hopWithField,
      predicates := ["la(\"member_of\")"], targetScope := some .set,
      inverseName := some "containingSet", indexReferences := ["setPrimaryName"] },
    { scope := .set, name := "name", pattern := .indexedWord,
      indexReferences := ["setPrimaryName"], scalarType := some .string },
    { scope := .set, name := "text", pattern := .text, indexReferences := ["setAnyText"],
      scalarType := some .string }
  ]

def workTerms : List Declaration :=
  [
    { scope := .work, name := "aboutAgent", pattern := .hopWithField,
      predicates := ["lux(\"about_or_depicts_agent\")"], targetScope := some .agent,
      inverseName := some "subjectOfAgent", indexReferences := ["agentPrimaryName"] },
    { scope := .work, name := "aboutConcept", pattern := .hopWithField,
      predicates := ["lux(\"about_or_depicts_concept\")"], targetScope := some .concept,
      inverseName := some "subjectOfConcept", indexReferences := ["conceptPrimaryName"] },
    { scope := .work, name := "aboutPlace", pattern := .hopWithField,
      predicates := ["lux(\"about_or_depicts_place\")"], targetScope := some .place,
      inverseName := some "subjectOfPlace", indexReferences := ["placePrimaryName"] },
    { scope := .work, name := "classification", pattern := .hopWithField,
      predicates := ["lux(\"workClassifiedAs\")"], targetScope := some .concept,
      inverseName := some "classificationOfWork", indexReferences := ["conceptPrimaryName"] },
    { scope := .work, name := "createdAt", pattern := .hopWithField,
      predicates := ["lux(\"placeOfCreation\")"], targetScope := some .place,
      inverseName := some "createdHere", indexReferences := ["placePrimaryName"] },
    { scope := .work, name := "createdBy", pattern := .hopWithField,
      predicates := ["lux(\"agentOfCreation\")"], targetScope := some .agent,
      inverseName := some "created", indexReferences := ["agentPrimaryName"] },
    { scope := .work, name := "creationInfluencedBy", pattern := .hopWithField,
      predicates := ["lux(\"agentInfluencedCreation\")"], targetScope := some .agent,
      inverseName := some "influencedCreation", indexReferences := ["agentPrimaryName"] },
    { scope := .work, name := "id", pattern := .documentId },
    { scope := .work, name := "isPublicDomain", pattern := .indexedValue,
      indexReferences := ["workIsPublicDomainBoolean"], scalarType := some .number },
    { scope := .work, name := "language", pattern := .hopWithField,
      predicates := ["crm(\"P72_has_language\")"], targetScope := some .concept,
      inverseName := some "languageOf", indexReferences := ["conceptPrimaryName"] },
    { scope := .work, name := "name", pattern := .indexedWord, indexReferences := ["workName"],
      scalarType := some .string },
    { scope := .work, name := "partOf", pattern := .indexedWord,
      indexReferences := ["workPrimaryName"], scalarType := some .string },
    { scope := .work, name := "publishedAt", pattern := .hopWithField,
      predicates := ["lux(\"placeOfPublication\")"], targetScope := some .place,
      inverseName := some "publishedHere", indexReferences := ["placePrimaryName"] },
    { scope := .work, name := "publishedBy", pattern := .hopWithField,
      predicates := ["lux(\"agentOfPublication\")"], targetScope := some .agent,
      inverseName := some "published", indexReferences := ["agentPrimaryName"] },
    { scope := .work, name := "relatedToAgent", pattern := .relatedList,
      targetScope := some .agent, inBetweenScopes := [.item, .work], maxLevel := some 2 },
    { scope := .work, name := "relatedToConcept", pattern := .relatedList,
      targetScope := some .concept, inBetweenScopes := [.item, .work], maxLevel := some 2 },
    { scope := .work, name := "relatedToEvent", pattern := .relatedList,
      targetScope := some .event, inBetweenScopes := [.item, .work, .set], maxLevel := some 3 },
    { scope := .work, name := "relatedToPlace", pattern := .relatedList,
      targetScope := some .place, inBetweenScopes := [.item, .work], maxLevel := some 2 },
    { scope := .work, name := "text", pattern := .text, indexReferences := ["workAnyText"],
      scalarType := some .string }
  ]

def all : List Declaration :=
  agentTerms
    ++ conceptTerms
    ++ eventTerms
    ++ itemTerms
    ++ placeTerms
    ++ referenceTerms
    ++ setTerms
    ++ workTerms

end ScopedSearch.Registry.Declared
