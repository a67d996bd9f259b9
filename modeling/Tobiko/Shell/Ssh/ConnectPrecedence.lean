import Tobiko.Shell.Ssh.ConnectParameters

/-!
Contract: which of its sources gives each parameter of a connection.

Owns: what a loop over a schema gathers and takes from it, the four sources one after the other, and
what the use of other parameters leaves behind.

Does not own: a host name that only the property of the fixture gives.
-/

namespace Tobiko.Shell.Ssh

open Tobiko.Foundation

variable {Value : Type}

/-! ### One source -/

/-- The validated value, if there is one. -/
def validated (init : Option (Init Value)) (value : Option Value) : Option (Option Value) :=
  init.bind fun init => value.bind fun value => (init value).toOption

/-- A value that its function refuses. -/
def Refused (schema : Schema Value) (value : String → Option Value)
    (error : ParametersError Value) : Prop :=
  ∃ name init given, schema.get? name = some init ∧ value name = some given ∧
    init given = .error error

def Accepted (schema : Schema Value) (value : String → Option Value) : Prop :=
  ∀ name init given, schema.get? name = some init → value name = some given →
    ∃ result, init given = .ok result

section Loop

variable {lookup : String → Gathering Value (Option Value)} {value : String → Option Value}
  {state : FixtureState Value}

/-- The loop ends with the first value that is refused, or with all the values that were given. -/
theorem itemsFrom_cases {items : List (String × Init Value)}
    (reads : ∀ name ∈ items.map Prod.fst, lookup name state = some (.ok (value name), state))
    (distinct : (items.map Prod.fst).Nodup) (parameters : Parameters Value) :
    (∃ error, itemsFrom lookup items parameters state = some (.error error, state) ∧
      ∃ name init given, items.lookup name = some init ∧ value name = some given ∧
        init given = .error error) ∨
    ∃ result, itemsFrom lookup items parameters state = some (.ok result, state) ∧
      (∀ name init given, items.lookup name = some init → value name = some given →
        ∃ result, init given = .ok result) ∧
      ∀ name, result.get? name =
        (validated (items.lookup name) (value name)).or (parameters.get? name) := by
  induction items generalizing parameters with
  | nil =>
      right
      refine ⟨parameters, rfl, fun name init given found => ?_, fun name => ?_⟩
      · cases found
      · rfl
  | cons item items inductionHypothesis =>
      obtain ⟨first, init⟩ := item
      obtain ⟨fresh, others⟩ := List.nodup_cons.mp distinct
      have readsOthers : ∀ name ∈ items.map Prod.fst,
          lookup name state = some (.ok (value name), state) :=
        fun name member => reads name (List.mem_cons_of_mem _ member)
      have read := reads first List.mem_cons_self
      have absent : items.lookup first = none := by
        rw [← Option.not_isSome_iff_eq_none, Dict.isSome_lookup]
        exact fresh
      have behind : ∀ name, ((first, init) :: items).lookup name =
          if name = first then some init else items.lookup name := fun _ => Dict.lookup_cons_eq
      cases isGiven : value first with
      | none =>
          rw [isGiven] at read
          have next : itemsFrom lookup ((first, init) :: items) parameters state =
              itemsFrom lookup items parameters state := by
            rw [itemsFrom, Effect.bind_of_ok read]
          rw [next]
          rcases inductionHypothesis readsOthers others parameters with
            ⟨error, ran, name, refusing, given, found, there, refused⟩ | ⟨result, ran, all, gets⟩
          · left
            refine ⟨error, ran, name, refusing, given, ?_, there, refused⟩
            have other : name ≠ first := by
              intro same
              rw [same, isGiven] at there
              cases there
            rw [behind, if_neg other, found]
          · right
            refine ⟨result, ran, fun name other given found there => ?_, fun name => ?_⟩
            · rw [behind] at found
              split at found
              · rename_i same
                rw [same, isGiven] at there
                cases there
              · exact all name other given found there
            · rw [gets, behind]
              split
              · rename_i same
                rw [same, absent, isGiven]
                rfl
              · rfl
      | some given =>
          rw [isGiven] at read
          cases refused : init given with
          | error error =>
              left
              have raised : (Effect.ofExcept (init given) : Gathering Value _) state =
                  some (.error error, state) := by
                rw [refused]
                rfl
              refine ⟨error, ?_, first, init, given, ?_, isGiven, refused⟩
              · rw [itemsFrom, Effect.bind_of_ok read]
                exact Effect.bind_of_error raised
              · rw [behind, if_pos rfl]
          | ok accepted =>
              have passed : (Effect.ofExcept (init given) : Gathering Value _) state =
                  some (.ok accepted, state) := by
                rw [refused]
                rfl
              have next : itemsFrom lookup ((first, init) :: items) parameters state =
                  itemsFrom lookup items (parameters.set first accepted) state := by
                rw [itemsFrom, Effect.bind_of_ok read]
                exact Effect.bind_of_ok passed
              rw [next]
              rcases inductionHypothesis readsOthers others (parameters.set first accepted) with
                ⟨error, ran, name, refusing, other, found, there, wrong⟩ | ⟨result, ran, all, gets⟩
              · left
                refine ⟨error, ran, name, refusing, other, ?_, there, wrong⟩
                have isOther : name ≠ first := by
                  intro same
                  rw [same, absent] at found
                  cases found
                rw [behind, if_neg isOther, found]
              · right
                refine ⟨result, ran, fun name other found isInit there => ?_, fun name => ?_⟩
                · rw [behind] at isInit
                  split at isInit
                  · rename_i same
                    cases isInit
                    rw [same, isGiven] at there
                    cases there
                    exact ⟨accepted, refused⟩
                  · exact all name other found isInit there
                · rw [gets, behind, Dict.get?_set]
                  by_cases same : name = first
                  · rw [if_pos same, if_pos same, same, absent, isGiven]
                    have isValid : validated (some init) (some given) = some accepted := by
                      unfold validated
                      dsimp only [Option.bind_some]
                      rw [refused]
                      rfl
                    rw [isValid]
                    rfl
                  · rw [if_neg same, if_neg same]

end Loop

/-! ### The working copies -/

/-- The fixture with a working copy of the schema, and the parameters that are gathered. -/
def FixtureState.working (start : FixtureState Value) (schema : Schema Value)
    (parameters : Parameters Value) : FixtureState Value :=
  (start.addSchema schema).addMapping parameters

section Working

variable {start : FixtureState Value} {schema : Schema Value} {parameters : Parameters Value}

theorem schemaAt_working :
    (start.working schema parameters).schemaAt start.schemas.length = schema := by
  have there : (start.schemas ++ [schema])[start.schemas.length]? = some schema :=
    List.getElem?_concat_length
  unfold FixtureState.schemaAt
  change ((start.schemas ++ [schema])[start.schemas.length]?).getD .empty = schema
  rw [there]
  rfl

theorem mappingAt_working :
    (start.working schema parameters).mappingAt start.mappings.length = parameters := by
  have there : (start.mappings ++ [parameters])[start.mappings.length]? = some parameters :=
    List.getElem?_concat_length
  change ((start.mappings ++ [parameters])[start.mappings.length]?).getD .empty = parameters
  rw [there]
  rfl

theorem setSchema_working (other : Schema Value) :
    (start.working schema parameters).setSchema start.schemas.length other =
      start.working other parameters := by
  have set : (start.schemas ++ [schema]).set start.schemas.length other =
      start.schemas ++ [other] := by
    rw [List.set_append_right _ _ (Nat.le_refl _), Nat.sub_self]
    rfl
  unfold FixtureState.setSchema FixtureState.working FixtureState.addMapping
    FixtureState.addSchema
  dsimp only
  congr

theorem setMapping_working (other : Parameters Value) :
    (start.working schema parameters).setMapping start.mappings.length other =
      start.working schema other := by
  have set : (start.mappings ++ [parameters]).set start.mappings.length other =
      start.mappings ++ [other] := by
    rw [List.set_append_right _ _ (Nat.le_refl _), Nat.sub_self]
    rfl
  unfold FixtureState.setMapping FixtureState.working FixtureState.addMapping
    FixtureState.addSchema
  dsimp only
  congr

theorem initial_working : (start.working schema parameters).initial = start.initial := by
  have there : (start.mappings ++ [parameters])[start.initialParameters]? =
      start.mappings[start.initialParameters]? := List.getElem?_append_left start.initialThere
  change ((start.mappings ++ [parameters])[start.initialParameters]?).getD .empty = _
  rw [there]
  rfl

theorem get?_foldl_erase (names : List String) (schema : Schema Value) (name : String) :
    (names.foldl Dict.erase schema).get? name = if name ∈ names then none else schema.get? name := by
  induction names generalizing schema with
  | nil => rw [if_neg List.not_mem_nil, List.foldl_nil]
  | cons first names inductionHypothesis =>
      rw [List.foldl_cons, inductionHypothesis, Dict.get?_erase]
      by_cases behind : name ∈ names
      · rw [if_pos behind, if_pos (List.mem_cons_of_mem _ behind)]
      · rw [if_neg behind]
        by_cases same : name = first
        · rw [if_pos same, same, if_pos List.mem_cons_self]
        · rw [if_neg same, if_neg fun member => (List.mem_cons.mp member).elim same behind]

/-- Names that are all there are deleted one after the other. -/
theorem deleteFromSchema_working {names : List String} (distinct : names.Nodup)
    (there : ∀ name ∈ names, name ∈ schema.keys) :
    deleteFromSchema start.schemas.length names (start.working schema parameters) =
      some (.ok (), start.working (names.foldl Dict.erase schema) parameters) := by
  induction names generalizing schema with
  | nil => rfl
  | cons first names inductionHypothesis =>
      obtain ⟨fresh, others⟩ := List.nodup_cons.mp distinct
      have got : (Effect.get : Gathering Value _) (start.working schema parameters) =
          some (.ok (start.working schema parameters), start.working schema parameters) := rfl
      have erased : (Effect.modify fun state : FixtureState Value =>
          state.setSchema start.schemas.length
            ((state.schemaAt start.schemas.length).erase first) : Gathering Value Unit)
              (start.working schema parameters) =
            some (.ok (), start.working (schema.erase first) parameters) := by
        change some ((.ok (), (start.working schema parameters).setSchema start.schemas.length
          (((start.working schema parameters).schemaAt start.schemas.length).erase first)) :
            Except (ParametersError Value) Unit × FixtureState Value) = _
        rw [schemaAt_working, setSchema_working]
      have thereOthers : ∀ name ∈ names, name ∈ (schema.erase first).keys := by
        intro name member
        have other : name ≠ first := by
          rintro rfl
          exact fresh member
        rw [← Dict.isSome_get?, Dict.get?_erase, if_neg other, Dict.isSome_get?]
        exact there name (List.mem_cons_of_mem _ member)
      unfold deleteFromSchema
      rw [Effect.bind_of_ok got, schemaAt_working, if_pos (there first List.mem_cons_self),
        Effect.bind_of_ok erased]
      exact inductionHypothesis others thereOthers

/-- What a source gives, in a state in which it can be read. -/
def Gives (value : String → Option Value) (names : List String) (state : FixtureState Value) :
    Source Value → Prop
  | .mapping mapping => ∀ name, value name = (mapping.get? name).join
  | .fixture => value = state.attributes ∧ "hostname" ∉ names

theorem getItem_eq (mapping : Parameters Value) (name : String) (state : FixtureState Value) :
    getItem mapping name state = some (.ok (mapping.get? name).join, state) := rfl

variable {readHostname : Gathering Value (Option Value)} {value : String → Option Value}

/-- What a source adds to the parameters, and takes from the schema. -/
theorem itemsFromSource_cases {source : Source Value} {state : FixtureState Value}
    (gives : Gives value schema.keys state source) :
    (∃ error, itemsFromSource readHostname (some source) schema state =
      some (.error error, state) ∧ Refused schema value error) ∨
    ∃ result, itemsFromSource readHostname (some source) schema state =
        some (.ok result, state) ∧ Accepted schema value ∧
      ∀ name, result.get? name = validated (schema.get? name) (value name) := by
  have loop : ∀ lookup : String → Gathering Value (Option Value),
      (∀ name ∈ schema.keys, lookup name state = some (.ok (value name), state)) →
      itemsFromSource readHostname (some source) schema = itemsFrom lookup schema.entries .empty →
      (∃ error, itemsFromSource readHostname (some source) schema state =
        some (.error error, state) ∧ Refused schema value error) ∨
      ∃ result, itemsFromSource readHostname (some source) schema state =
          some (.ok result, state) ∧ Accepted schema value ∧
        ∀ name, result.get? name = validated (schema.get? name) (value name) := by
    intro lookup reads isLoop
    rw [isLoop]
    rcases itemsFrom_cases reads schema.distinct .empty with
      ⟨error, ran, refused⟩ | ⟨result, ran, accepted, gets⟩
    · exact .inl ⟨error, ran, refused⟩
    · refine .inr ⟨result, ran, accepted, fun name => ?_⟩
      rw [gets, Dict.get?_empty, Option.or_none]
      rfl
  cases source with
  | mapping mapping =>
      have reads : ∀ name, value name = (mapping.get? name).join := gives
      by_cases isEmpty : mapping.keys = []
      · right
        have nothing : ∀ name, value name = none := by
          intro name
          rw [reads]
          have absent : mapping.get? name = none := by
            rw [← Option.not_isSome_iff_eq_none, Dict.isSome_get?, isEmpty]
            exact List.not_mem_nil
          rw [absent]
          rfl
        refine ⟨.empty, ?_, fun name init given _ there => ?_, fun name => ?_⟩
        · unfold itemsFromSource
          dsimp only
          rw [if_pos isEmpty]
          rfl
        · rw [nothing] at there
          cases there
        · rw [nothing]
          cases schema.get? name with
          | none => rfl
          | some init => rfl
      · apply loop (getItem mapping)
        · intro name _
          rw [getItem_eq, reads]
        · unfold itemsFromSource
          dsimp only
          rw [if_neg isEmpty]
  | fixture =>
      obtain ⟨rfl, noHostname⟩ := gives
      apply loop (getAttribute readHostname)
      · intro name member
        have other : name ≠ "hostname" := by
          rintro rfl
          exact noHostname member
        unfold getAttribute
        rw [if_neg other]
        rfl
      · rfl

theorem gather_working {source : Source Value}
    (gives : Gives value schema.keys (start.working schema parameters) source) :
    (∃ error, gatherSshConnectParameters readHostname (some source) .empty start.mappings.length
        start.schemas.length true (start.working schema parameters) =
          some (.error error, start.working schema parameters) ∧ Refused schema value error) ∨
    ∃ result left, gatherSshConnectParameters readHostname (some source) .empty
        start.mappings.length start.schemas.length true (start.working schema parameters) =
          some (.ok result, start.working left (parameters.update result)) ∧
      Accepted schema value ∧
      (∀ name, left.get? name = if (value name).isSome then none else schema.get? name) ∧
      ∀ name, result.get? name = validated (schema.get? name) (value name) := by
  have got : (Effect.get : Gathering Value _) (start.working schema parameters) =
      some (.ok (start.working schema parameters), start.working schema parameters) := rfl
  unfold gatherSshConnectParameters
  rw [Effect.bind_of_ok got, schemaAt_working]
  rcases @itemsFromSource_cases _ schema readHostname value source _ gives with
    ⟨error, ran, refused⟩ | ⟨result, ran, accepted, gets⟩
  · exact .inl ⟨error, Effect.bind_of_error ran, refused⟩
  · right
    have isServed : ∀ name, name ∈ result.keys ↔
        (schema.get? name).isSome ∧ (value name).isSome := by
      intro name
      rw [← Dict.isSome_get?, gets]
      unfold validated
      cases found : schema.get? name with
      | none => exact ⟨fun isSome => (by cases isSome), fun both => both.1⟩
      | some init =>
          cases there : value name with
          | none => exact ⟨fun isSome => (by cases isSome), fun both => both.2⟩
          | some given =>
              obtain ⟨checked, isOk⟩ := accepted name init given found there
              dsimp only [Option.bind_some]
              rw [isOk]
              exact ⟨fun _ => ⟨rfl, rfl⟩, fun _ => rfl⟩
    have noKwargs : itemsFromKwargs .empty start.schemas.length result
        (start.working schema parameters) =
          some (.ok result, start.working schema parameters) := rfl
    have deleted := @deleteFromSchema_working _ start schema parameters result.keys
      result.distinct fun name member => Dict.isSome_get?.mp ((isServed name).mp member).1
    have updated : ∀ left, (Effect.modify fun state : FixtureState Value =>
        state.setMapping start.mappings.length
          ((state.mappingAt start.mappings.length).update result) : Gathering Value Unit)
            (start.working left parameters) =
          some (.ok (), start.working left (parameters.update result)) := by
      intro left
      change some ((.ok (), (start.working left parameters).setMapping start.mappings.length
        (((start.working left parameters).mappingAt start.mappings.length).update result)) :
          Except (ParametersError Value) Unit × FixtureState Value) = _
      rw [mappingAt_working, setMapping_working]
    refine ⟨result, result.keys.foldl Dict.erase schema, ?_, accepted, fun name => ?_, gets⟩
    · rw [Effect.bind_of_ok ran, Effect.bind_of_ok noKwargs, if_pos rfl,
        Effect.bind_of_ok deleted, Effect.bind_of_ok (updated _)]
      rfl
    · rw [get?_foldl_erase]
      by_cases served : name ∈ result.keys
      · rw [if_pos served, if_pos ((isServed name).mp served).2]
      · rw [if_neg served]
        split
        · rename_i isGiven
          cases found : schema.get? name with
          | none => rfl
          | some init =>
              exfalso
              apply served
              rw [isServed, found]
              exact ⟨rfl, isGiven⟩
        · rfl

end Working

/-! ### One source after the other -/

/-- The first of the sources that gives a value. -/
def firstOf (sources : List (String → Option Value)) (name : String) : Option Value :=
  sources.findSome? fun source => source name

theorem firstOf_append (sources : List (String → Option Value)) (source : String → Option Value)
    (name : String) :
    firstOf (sources ++ [source]) name = (firstOf sources name).or (source name) := by
  unfold firstOf
  rw [List.findSome?_append, List.findSome?_singleton]

/-- The names that are left, and the parameters that are there, behind these sources. -/
structure Gathered (schema : Schema Value) (sources : List (String → Option Value))
    (left : Schema Value) (parameters : Parameters Value) : Prop where
  isLeft : ∀ name, left.get? name =
    if (firstOf sources name).isSome then none else schema.get? name
  gets : ∀ name, parameters.get? name = validated (schema.get? name) (firstOf sources name)
  accepted : Accepted schema (firstOf sources)

section Sources

variable {start : FixtureState Value} {schema left : Schema Value} {parameters : Parameters Value}
  {sources : List (String → Option Value)} {value : String → Option Value}
  {readHostname : Gathering Value (Option Value)}

theorem Gathered.found (gathered : Gathered schema sources left parameters) {name : String}
    {init : Init Value} (found : left.get? name = some init) :
    firstOf sources name = none ∧ schema.get? name = some init := by
  rw [gathered.isLeft] at found
  split at found
  · cases found
  · rename_i notGiven
    exact ⟨Option.not_isSome_iff_eq_none.mp notGiven, found⟩

theorem Gathered.next (gathered : Gathered schema sources left parameters)
    {result : Parameters Value} {less : Schema Value} (accepted : Accepted left value)
    (isLess : ∀ name, less.get? name = if (value name).isSome then none else left.get? name)
    (gets : ∀ name, result.get? name = validated (left.get? name) (value name)) :
    Gathered schema (sources ++ [value]) less (parameters.update result) := by
  constructor
  · intro name
    rw [isLess, gathered.isLeft, firstOf_append]
    cases firstOf sources name with
    | none => rfl
    | some given =>
        cases value name with
        | none => rfl
        | some other => rfl
  · intro name
    rw [Dict.get?_update, gets, gathered.isLeft, gathered.gets, firstOf_append]
    cases firstOf sources name with
    | none =>
        rw [Option.none_or]
        cases schema.get? name with
        | none => rfl
        | some init => exact Option.or_none
    | some given => rfl
  · intro name init given found there
    rw [firstOf_append] at there
    cases first : firstOf sources name with
    | none =>
        rw [first, Option.none_or] at there
        apply accepted name init given _ there
        rw [gathered.isLeft, first]
        exact found
    | some other =>
        rw [first] at there
        cases there
        exact gathered.accepted name init given found first

theorem Gathered.refused (gathered : Gathered schema sources left parameters)
    {error : ParametersError Value} (refused : Refused left value error) :
    Refused schema (firstOf (sources ++ [value])) error := by
  obtain ⟨name, init, given, found, there, isError⟩ := refused
  obtain ⟨noneBefore, isInit⟩ := gathered.found found
  refine ⟨name, init, given, isInit, ?_, isError⟩
  rw [firstOf_append, noneBefore, Option.none_or, there]

/-- A value that is refused stays the first one of its name. -/
theorem refused_more {error : ParametersError Value} (source : String → Option Value)
    (refused : Refused schema (firstOf sources) error) :
    Refused schema (firstOf (sources ++ [source])) error := by
  obtain ⟨name, init, given, found, there, isError⟩ := refused
  refine ⟨name, init, given, found, ?_, isError⟩
  rw [firstOf_append, there]
  rfl

/-- The part of a gathering that reads one source. -/
def Serves (start : FixtureState Value) (schema : Schema Value)
    (sources : List (String → Option Value)) (value : String → Option Value)
    (effect : Gathering Value Unit) : Prop :=
  ∀ left parameters, Gathered schema sources left parameters →
    (∃ error, effect (start.working left parameters) =
      some (.error error, start.working left parameters) ∧
        Refused schema (firstOf (sources ++ [value])) error) ∨
    ∃ less more, effect (start.working left parameters) =
        some (.ok (), start.working less more) ∧
      Gathered schema (sources ++ [value]) less more

theorem gatherMapping_serves (mapping : Option (Parameters Value))
    (isValue : ∀ name, value name = (mapping.bind fun mapping => mapping.get? name).join) :
    Serves start schema sources value
      (gatherMapping readHostname mapping start.mappings.length start.schemas.length) := by
  intro left parameters gathered
  cases mapping with
  | none =>
      right
      have nothing : ∀ name, value name = none := isValue
      refine ⟨left, parameters, rfl, ?_, ?_, ?_⟩
      · intro name
        rw [firstOf_append, nothing, Option.or_none, gathered.isLeft]
      · intro name
        rw [firstOf_append, nothing, Option.or_none, gathered.gets]
      · intro name init given found there
        rw [firstOf_append, nothing, Option.or_none] at there
        exact gathered.accepted name init given found there
  | some mapping =>
      rcases @gather_working _ start left parameters readHostname value (.mapping mapping)
        isValue with ⟨error, ran, refused⟩ | ⟨result, less, ran, accepted, isLess, gets⟩
      · left
        exact ⟨error, Effect.bind_of_error ran, gathered.refused refused⟩
      · right
        refine ⟨less, parameters.update result, ?_, gathered.next accepted isLess gets⟩
        unfold gatherMapping
        dsimp only
        rw [Effect.bind_of_ok ran]
        rfl

/-! ### All the sources -/

/-- What the mapping of a source gives. -/
def mappingGives (mapping : Option (Parameters Value)) (name : String) : Option Value :=
  (mapping.bind fun mapping => mapping.get? name).join

/-- The first three sources, in their order. -/
def FixtureState.firstSources (state : FixtureState Value) : List (String → Option Value) :=
  [mappingGives (some state.initial), mappingGives state.globalHostConfig,
    mappingGives state.hostConfig]

def FixtureState.allSources (state : FixtureState Value) : List (String → Option Value) :=
  state.firstSources ++ [state.attributes]

theorem gatherInitial_serves :
    Serves start schema [] (mappingGives (some start.initial))
      (gatherInitialConnectParameters readHostname start.mappings.length
        start.schemas.length) := by
  intro left parameters gathered
  have got : (Effect.get : Gathering Value _) (start.working left parameters) =
      some (.ok (start.working left parameters), start.working left parameters) := rfl
  unfold gatherInitialConnectParameters
  rw [Effect.bind_of_ok got, initial_working]
  apply gatherMapping_serves _ _ left parameters gathered
  intro name
  unfold mappingGives
  split
  · rename_i isEmpty
    have absent : start.initial.get? name = none := by
      rw [← Option.not_isSome_iff_eq_none, Dict.isSome_get?, isEmpty]
      exact List.not_mem_nil
    rw [Option.bind_some, absent]
    rfl
  · rfl

theorem gatherGlobal_serves (sources : List (String → Option Value)) :
    Serves start schema sources (mappingGives start.globalHostConfig)
      (gatherGlobalHostConfigConnectParameters readHostname start.mappings.length
        start.schemas.length) := by
  intro left parameters gathered
  have got : (Effect.get : Gathering Value _) (start.working left parameters) =
      some (.ok (start.working left parameters), start.working left parameters) := rfl
  unfold gatherGlobalHostConfigConnectParameters
  rw [Effect.bind_of_ok got]
  exact gatherMapping_serves start.globalHostConfig (fun _ => rfl) left parameters gathered

theorem gatherHost_serves (sources : List (String → Option Value)) :
    Serves start schema sources (mappingGives start.hostConfig)
      (gatherHostConfigConnectParameters readHostname start.mappings.length
        start.schemas.length) := by
  intro left parameters gathered
  have got : (Effect.get : Gathering Value _) (start.working left parameters) =
      some (.ok (start.working left parameters), start.working left parameters) := rfl
  unfold gatherHostConfigConnectParameters
  rw [Effect.bind_of_ok got]
  exact gatherMapping_serves start.hostConfig (fun _ => rfl) left parameters gathered

/-- The property `hostname` is not read when the name has been served before. -/
theorem gatherDefault_serves (hostnameGiven : (firstOf sources "hostname").isSome) :
    Serves start schema sources start.attributes
      (gatherDefaultConnectParameters readHostname start.mappings.length
        start.schemas.length) := by
  intro left parameters gathered
  have noHostname : "hostname" ∉ left.keys := by
    rw [← Dict.isSome_get?, gathered.isLeft, if_pos hostnameGiven]
    exact Bool.false_ne_true
  rcases @gather_working _ start left parameters readHostname start.attributes .fixture
    ⟨rfl, noHostname⟩ with ⟨error, ran, refused⟩ | ⟨result, less, ran, accepted, isLess, gets⟩
  · left
    exact ⟨error, Effect.bind_of_error ran, gathered.refused refused⟩
  · right
    refine ⟨less, parameters.update result, ?_, gathered.next accepted isLess gets⟩
    unfold gatherDefaultConnectParameters
    rw [Effect.bind_of_ok ran]
    rfl

theorem gathered_none (schema : Schema Value) : Gathered schema [] schema .empty := by
  constructor
  · intro name
    rfl
  · intro name
    unfold validated
    cases schema.get? name with
    | none => rfl
    | some init => rfl
  · intro name init given found there
    cases there

/-- The four sources one after the other. -/
theorem getConnectParametersWith_cases (schemaGiven : Option Nat)
    (hostnameGiven : (firstOf start.firstSources "hostname").isSome) :
    ∃ outcome left parameters, getConnectParametersWith readHostname schemaGiven start =
        some (outcome, start.working left parameters) ∧
      ((∃ error, outcome = .error error ∧
        Refused (start.schemaOr schemaGiven) (firstOf start.allSources) error) ∨
      (outcome = .ok start.mappings.length ∧
        Gathered (start.schemaOr schemaGiven) start.allSources left parameters)) := by
  have got : (Effect.get : Gathering Value _) start = some (.ok start, start) := rfl
  have schemaMade : newSchema (start.schemaOr schemaGiven) start =
      some (.ok start.schemas.length, start.addSchema (start.schemaOr schemaGiven)) := rfl
  have mappingMade : newMapping .empty (start.addSchema (start.schemaOr schemaGiven)) =
      some (.ok start.mappings.length,
        start.working (start.schemaOr schemaGiven) .empty) := rfl
  unfold getConnectParametersWith
  rw [Effect.bind_of_ok got, Effect.bind_of_ok schemaMade, Effect.bind_of_ok mappingMade]
  rcases @gatherInitial_serves _ start (start.schemaOr schemaGiven) readHostname _ _
    (gathered_none _) with ⟨error, ran, refused⟩ | ⟨left, parameters, ran, gathered⟩
  · refine ⟨.error error, _, _, Effect.bind_of_error ran, .inl ⟨error, rfl, ?_⟩⟩
    exact refused_more _ (refused_more _ (refused_more _ refused))
  rw [Effect.bind_of_ok ran]
  rcases @gatherGlobal_serves _ start _ readHostname _ _ _ gathered with
    ⟨error, ran, refused⟩ | ⟨left, parameters, ran, gathered⟩
  · refine ⟨.error error, _, _, Effect.bind_of_error ran, .inl ⟨error, rfl, ?_⟩⟩
    exact refused_more _ (refused_more _ refused)
  rw [Effect.bind_of_ok ran]
  rcases @gatherHost_serves _ start _ readHostname _ _ _ gathered with
    ⟨error, ran, refused⟩ | ⟨left, parameters, ran, gathered⟩
  · refine ⟨.error error, _, _, Effect.bind_of_error ran, .inl ⟨error, rfl, ?_⟩⟩
    exact refused_more _ refused
  rw [Effect.bind_of_ok ran]
  rcases @gatherDefault_serves _ start _ _ readHostname hostnameGiven _ _ gathered with
    ⟨error, ran, refused⟩ | ⟨left, parameters, ran, gathered⟩
  · exact ⟨.error error, _, _, Effect.bind_of_error ran, .inl ⟨error, rfl, refused⟩⟩
  rw [Effect.bind_of_ok ran]
  exact ⟨_, left, parameters, rfl, .inr ⟨rfl, gathered⟩⟩

/-! ### What stays as it was -/

/-- The constructor parameters, and all the mappings that there were. -/
structure Kept (start state : FixtureState Value) : Prop where
  sameAddress : state.initialParameters = start.initialParameters
  sameMappings : ∀ address < start.mappings.length,
    state.mappings[address]? = start.mappings[address]?
  longer : start.mappings.length ≤ state.mappings.length

theorem Kept.initial {start state : FixtureState Value} (kept : Kept start state) :
    state.initial = start.initial := by
  unfold FixtureState.initial FixtureState.mappingAt
  rw [kept.sameAddress, kept.sameMappings _ start.initialThere]

def Keeps {Result : Type} (start : FixtureState Value) (effect : Gathering Value Result) : Prop :=
  Effect.Ensures (Kept start) effect (fun _ => Kept start) fun _ => Kept start

section Keeps

variable {start : FixtureState Value} {Result Next : Type}

theorem keeps_bind {first : Gathering Value Result} {next : Result → Gathering Value Next}
    (firstKeeps : Keeps start first) (nextKeeps : ∀ value, Keeps start (next value)) :
    Keeps start (first >>= next) :=
  Effect.ensures_bind _ firstKeeps nextKeeps

theorem keeps_pure (value : Result) : Keeps start (pure value : Gathering Value Result) :=
  Effect.ensures_pure fun _ kept => kept

theorem keeps_get : Keeps start (Effect.get : Gathering Value (FixtureState Value)) :=
  Effect.ensures_get fun _ kept => kept

theorem keeps_raise (error : ParametersError Value) :
    Keeps start (Effect.raise error : Gathering Value Result) :=
  Effect.ensures_raise fun _ kept => kept

theorem keeps_ofExcept (result : Except (ParametersError Value) Result) :
    Keeps start (Effect.ofExcept result : Gathering Value Result) := by
  cases result with
  | ok value => exact keeps_pure value
  | error error => exact keeps_raise error

/-- A change that leaves the mappings alone. -/
theorem keeps_modify {change : FixtureState Value → FixtureState Value}
    (sameMappings : ∀ state, (change state).mappings = state.mappings)
    (sameAddress : ∀ state, (change state).initialParameters = state.initialParameters) :
    Keeps start (Effect.modify change : Gathering Value Unit) := by
  apply Effect.ensures_modify
  intro state kept
  constructor
  · rw [sameAddress, kept.sameAddress]
  · rw [sameMappings]
    exact kept.sameMappings
  · rw [sameMappings]
    exact kept.longer

theorem keeps_deleteFromSchema (schema : Nat) (names : List String) :
    Keeps start (deleteFromSchema schema names : Gathering Value Unit) := by
  induction names with
  | nil => exact keeps_pure ()
  | cons name names inductionHypothesis =>
      unfold deleteFromSchema
      apply keeps_bind keeps_get
      intro state
      split
      · apply keeps_bind
        · exact keeps_modify (fun _ => rfl) fun _ => rfl
        · intro _
          exact inductionHypothesis
      · exact keeps_raise _

theorem keeps_itemsFrom {lookup : String → Gathering Value (Option Value)}
    (lookupKeeps : ∀ name, Keeps start (lookup name)) (items : List (String × Init Value))
    (parameters : Parameters Value) : Keeps start (itemsFrom lookup items parameters) := by
  induction items generalizing parameters with
  | nil => exact keeps_pure parameters
  | cons item items inductionHypothesis =>
      unfold itemsFrom
      apply keeps_bind (lookupKeeps _)
      intro found
      cases found with
      | none => exact inductionHypothesis _
      | some value =>
          apply keeps_bind (keeps_ofExcept _)
          intro _
          exact inductionHypothesis _

variable {readHostname : Gathering Value (Option Value)}
  (readKeeps : Keeps start readHostname)

include readKeeps

theorem keeps_itemsFromSource (source : Option (Source Value)) (schema : Schema Value) :
    Keeps start (itemsFromSource readHostname source schema) := by
  unfold itemsFromSource
  split
  · exact keeps_pure _
  · split
    · exact keeps_pure _
    · exact keeps_itemsFrom (fun name => keeps_pure _) _ _
  · apply keeps_itemsFrom
    intro name
    unfold getAttribute
    split
    · exact readKeeps
    · exact keeps_bind keeps_get fun _ => keeps_pure _

theorem keeps_gather (source : Option (Source Value)) (kwargs : Parameters Value)
    {destination : Nat} (isNew : start.mappings.length ≤ destination) (schema : Nat)
    (removeFromSchema : Bool) :
    Keeps start (gatherSshConnectParameters readHostname source kwargs destination schema
      removeFromSchema) := by
  unfold gatherSshConnectParameters
  apply keeps_bind keeps_get
  intro state
  apply keeps_bind (keeps_itemsFromSource readKeeps _ _)
  intro parameters
  apply keeps_bind
  · unfold itemsFromKwargs
    split
    · exact keeps_pure _
    · apply keeps_bind keeps_get
      intro state
      apply keeps_bind (keeps_itemsFrom (fun name => keeps_pure _) _ _)
      intro parameters
      dsimp only
      split
      · exact keeps_pure _
      · exact keeps_raise _
  intro parameters
  apply keeps_bind (keeps_deleteFromSchema _ _)
  intro _
  apply keeps_bind
  · apply Effect.ensures_modify
    intro state kept
    refine ⟨kept.sameAddress, fun address below => ?_, ?_⟩
    · have other : destination ≠ address := by omega
      change (state.mappings.set destination _)[address]? = _
      rw [List.getElem?_set_ne other]
      exact kept.sameMappings address below
    · change start.mappings.length ≤ (state.mappings.set destination _).length
      rw [List.length_set]
      exact kept.longer
  · intro _
    exact keeps_pure _

theorem keeps_gatherMapping (mapping : Option (Parameters Value)) {destination : Nat}
    (isNew : start.mappings.length ≤ destination) (schema : Nat) :
    Keeps start (gatherMapping readHostname mapping destination schema) := by
  cases mapping with
  | none => exact keeps_pure ()
  | some mapping =>
      exact keeps_bind (keeps_gather readKeeps _ _ isNew _ _) fun _ => keeps_pure ()

theorem keeps_getConnectParametersWith (schema : Option Nat) :
    Keeps start (getConnectParametersWith readHostname schema) := by
  unfold getConnectParametersWith
  apply keeps_bind keeps_get
  intro state
  apply keeps_bind
  · apply Effect.ensures_update
    intro state kept
    exact ⟨kept.sameAddress, kept.sameMappings, kept.longer⟩
  intro working
  -- The new mapping is at an address behind all that there were.
  apply Effect.ensures_bind fun address state =>
    start.mappings.length ≤ address ∧ Kept start state
  · apply Effect.ensures_update
    intro state kept
    refine ⟨kept.longer, kept.sameAddress, fun address below => ?_, ?_⟩
    · change (state.mappings ++ [_])[address]? = _
      rw [List.getElem?_append_left (Nat.lt_of_lt_of_le below kept.longer)]
      exact kept.sameMappings address below
    · change start.mappings.length ≤ (state.mappings ++ [_]).length
      rw [List.length_append]
      exact Nat.le_add_right_of_le kept.longer
  intro destination state both outcome after ran
  have fourSources : start.mappings.length ≤ destination → Keeps start (do
      gatherInitialConnectParameters readHostname destination working
      gatherGlobalHostConfigConnectParameters readHostname destination working
      gatherHostConfigConnectParameters readHostname destination working
      gatherDefaultConnectParameters readHostname destination working
      pure destination) := by
    intro isNew
    apply keeps_bind
    · exact keeps_bind keeps_get fun _ => keeps_gatherMapping readKeeps _ isNew _
    intro _
    apply keeps_bind
    · exact keeps_bind keeps_get fun _ => keeps_gatherMapping readKeeps _ isNew _
    intro _
    apply keeps_bind
    · exact keeps_bind keeps_get fun _ => keeps_gatherMapping readKeeps _ isNew _
    intro _
    apply keeps_bind
    · exact keeps_bind (keeps_gather readKeeps _ _ isNew _ _) fun _ => keeps_pure ()
    intro _
    exact keeps_pure _
  exact fourSources both.1 state both.2 outcome after ran

omit readKeeps

theorem keeps_readHostname (lookupHost : Except (ParametersError Value) (Parameters Value))
    (depth : Nat) : Keeps start (Ssh.readHostname lookupHost depth) := by
  induction depth with
  | zero => exact keeps_raise _
  | succ depth inductionHypothesis =>
      unfold Ssh.readHostname
      apply keeps_bind (keeps_ofExcept _)
      intro config
      apply keeps_bind
      · exact keeps_modify (fun _ => rfl) fun _ => rfl
      intro _
      apply keeps_bind (keeps_getConnectParametersWith inductionHypothesis _)
      intro parameters
      apply keeps_bind
      · exact keeps_modify (fun _ => rfl) fun _ => rfl
      intro _
      apply keeps_bind keeps_get
      intro state
      split
      · exact keeps_raise _
      · exact keeps_pure _

end Keeps

/-! ### The parameters of a connection -/

/-- The sources and the schemas are what they were. -/
structure Untouched (before after : FixtureState Value) : Prop where
  schemas : ∀ address < before.schemas.length, after.schemaAt address = before.schemaAt address
  mappings : ∀ address < before.mappings.length, after.mappingAt address = before.mappingAt address
  schema : after.schema = before.schema
  initialParameters : after.initialParameters = before.initialParameters
  connectParameters : after.connectParameters = before.connectParameters
  globalHostConfig : after.globalHostConfig = before.globalHostConfig
  hostConfig : after.hostConfig = before.hostConfig
  attributes : after.attributes = before.attributes

/-- Each name of the schema has the validated value of the first source that gives it one, and there
are no other names. -/
structure Precedence (schema : Schema Value) (value : String → Option Value)
    (before : FixtureState Value) (outcome : Except (ParametersError Value) Nat)
    (after : FixtureState Value) : Prop where
  untouched : Untouched before after
  returns : (∃ address, outcome = .ok address) ↔ Accepted schema value
  raises : ∀ error, outcome = .error error → Refused schema value error
  parameters : ∀ address, outcome = .ok address → ∀ name,
    (after.mappingAt address).get? name = validated (schema.get? name) (value name)

/-- The constructor parameters with the validated keyword arguments. -/
def entered (before : FixtureState Value) (kwargs : Parameters Value) (name : String) :
    Option (Option Value) :=
  (validated ((before.schemaAt before.schema).get? name) (kwargs.get? name).join).or
    (before.initial.get? name)

def enteredSources (before : FixtureState Value) (kwargs : Parameters Value) :
    List (String → Option Value) :=
  [fun name => (entered before kwargs name).join, mappingGives before.globalHostConfig,
    mappingGives before.hostConfig]

/-- What holds when the body is entered. -/
structure InBody (before : FixtureState Value) (kwargs : Parameters Value)
    (inside : FixtureState Value) : Prop where
  initial : ∀ name, inside.initial.get? name = entered before kwargs name
  inEffect : (firstOf (enteredSources before kwargs) "hostname").isSome →
    ∃ address, inside.connectParameters = some address ∧ ∀ name,
      (inside.mappingAt address).get? name =
        validated ((before.schemaAt before.schema).get? name)
          (firstOf (enteredSources before kwargs ++ [before.attributes]) name)

section Connect

variable {start : FixtureState Value} {lookupHost : Except (ParametersError Value) (Parameters Value)}
  {depth : Nat}

theorem working_untouched (schema : Schema Value) (parameters : Parameters Value) :
    Untouched start (start.working schema parameters) := by
  refine ⟨fun address below => ?_, fun address below => ?_, rfl, rfl, rfl, rfl, rfl, rfl⟩
  · have there : (start.schemas ++ [schema])[address]? = start.schemas[address]? :=
      List.getElem?_append_left below
    change ((start.schemas ++ [schema])[address]?).getD .empty = _
    rw [there]
    rfl
  · have there : (start.mappings ++ [parameters])[address]? = start.mappings[address]? :=
      List.getElem?_append_left below
    change ((start.mappings ++ [parameters])[address]?).getD .empty = _
    rw [there]
    rfl

theorem getConnectParameters_precedence (schemaGiven : Option Nat)
    (hostnameGiven : (firstOf start.firstSources "hostname").isSome) :
    ∃ outcome after, getConnectParameters lookupHost depth schemaGiven start =
        some (outcome, after) ∧
      Precedence (start.schemaOr schemaGiven) (firstOf start.allSources) start outcome after := by
  obtain ⟨outcome, left, parameters, ran, ⟨error, rfl, refused⟩ | ⟨rfl, gathered⟩⟩ :=
    @getConnectParametersWith_cases _ start (readHostname lookupHost depth) schemaGiven
      hostnameGiven
  · refine ⟨_, _, ran, working_untouched _ _, ?_, fun other same => ?_, fun address same => ?_⟩
    · constructor
      · rintro ⟨address, same⟩
        cases same
      · intro accepted
        obtain ⟨name, init, given, found, there, isError⟩ := refused
        obtain ⟨result, isOk⟩ := accepted name init given found there
        rw [isError] at isOk
        cases isOk
    · cases same
      exact refused
    · cases same
  · refine ⟨_, _, ran, working_untouched _ _, ?_, fun error same => ?_, fun address same => ?_⟩
    · exact ⟨fun _ => gathered.accepted, fun _ => ⟨_, rfl⟩⟩
    · cases same
    · cases same
      intro name
      rw [mappingAt_working]
      exact gathered.gets name

/-- The keyword arguments become constructor parameters. -/
theorem gatherKwargs_returned {readHostname : Gathering Value (Option Value)}
    {kwargs result : Parameters Value} {after : FixtureState Value}
    (ran : gatherSshConnectParameters readHostname none kwargs start.initialParameters start.schema
      false start = some (.ok result, after)) :
    ∃ parameters, after = start.setMapping start.initialParameters parameters ∧
      ∀ name, parameters.get? name = entered start kwargs name := by
  have got : (Effect.get : Gathering Value _) start = some (.ok start, start) := rfl
  have nothing : itemsFromSource readHostname none (start.schemaAt start.schema) start =
      some (.ok .empty, start) := rfl
  unfold gatherSshConnectParameters at ran
  rw [Effect.bind_of_ok got, Effect.bind_of_ok nothing] at ran
  obtain ⟨parameters, middle, gathered, ran⟩ := Effect.returned_bind ran
  have isGathered : middle = start ∧ ∀ name, parameters.get? name =
      validated ((start.schemaAt start.schema).get? name) (kwargs.get? name).join := by
    unfold itemsFromKwargs at gathered
    split at gathered
    · rename_i noKwargs
      cases gathered
      refine ⟨rfl, fun name => ?_⟩
      have absent : kwargs.get? name = none := by
        rw [← Option.not_isSome_iff_eq_none, Dict.isSome_get?, noKwargs]
        exact List.not_mem_nil
      rw [absent]
      unfold validated
      cases (start.schemaAt start.schema).get? name with
      | none => rfl
      | some init => rfl
    · rw [Effect.bind_of_ok got] at gathered
      rcases @itemsFrom_cases _ (getItem kwargs) (fun name => (kwargs.get? name).join) start
        (start.schemaAt start.schema).entries (fun name _ => getItem_eq kwargs name start)
        (start.schemaAt start.schema).distinct .empty with
        ⟨error, failed, -⟩ | ⟨items, passed, -, gets⟩
      · rw [Effect.bind_of_error failed] at gathered
        cases gathered
      · rw [Effect.bind_of_ok passed] at gathered
        split at gathered
        · cases gathered
          refine ⟨rfl, fun name => ?_⟩
          rw [gets, Dict.get?_empty, Option.or_none]
          rfl
        · cases gathered
  obtain ⟨rfl, gets⟩ := isGathered
  cases ran
  refine ⟨_, rfl, fun name => ?_⟩
  rw [Dict.get?_update, gets]
  rfl

theorem initial_setMapping (parameters : Parameters Value) :
    (start.setMapping start.initialParameters parameters).initial = parameters := by
  have there : (start.mappings.set start.initialParameters parameters)[start.initialParameters]? =
      some parameters := List.getElem?_set_self start.initialThere
  change ((start.mappings.set start.initialParameters parameters)[start.initialParameters]?).getD
    .empty = _
  rw [there]
  rfl

/-- The parameters that are in effect in the body. -/
theorem enterConnectParameters_returned {kwargs : Parameters Value}
    {restoreParameters : Option (Parameters Value)} {inside : FixtureState Value}
    (kwargsGiven : kwargs.keys ≠ [])
    (ran : enterConnectParameters lookupHost depth kwargs start =
      some (.ok restoreParameters, inside)) :
    restoreParameters = some start.initial ∧ InBody start kwargs inside := by
  have got : (Effect.get : Gathering Value _) start = some (.ok start, start) := rfl
  unfold enterConnectParameters at ran
  rw [if_neg kwargsGiven, Effect.bind_of_ok got] at ran
  obtain ⟨result, middle, gathered, ran⟩ := Effect.returned_bind ran
  obtain ⟨address, later, connected, ran⟩ := Effect.returned_bind ran
  cases ran
  obtain ⟨parameters, rfl, gets⟩ := gatherKwargs_returned gathered
  have keeps := @keeps_getConnectParametersWith _
    (start.setMapping start.initialParameters parameters) (readHostname lookupHost depth)
    (keeps_readHostname lookupHost depth) none
  have kept := (keeps _ ⟨rfl, fun _ _ => rfl, Nat.le_refl _⟩ _ _ connected).1 address rfl
  refine ⟨rfl, fun name => ?_, fun hostnameGiven => ⟨address, rfl, fun name => ?_⟩⟩
  · rw [← gets]
    have same := kept.initial
    rw [initial_setMapping] at same
    exact congrArg (fun mapping => mapping.get? name) same
  · have sameSources : (start.setMapping start.initialParameters parameters).firstSources =
        enteredSources start kwargs := by
      unfold FixtureState.firstSources enteredSources
      rw [initial_setMapping]
      have same : mappingGives (some parameters) =
          fun name => (entered start kwargs name).join := by
        funext name
        rw [← gets]
        rfl
      rw [same]
      rfl
    obtain ⟨outcome, after, ranAgain, precedence⟩ := @getConnectParameters_precedence _
      (start.setMapping start.initialParameters parameters) lookupHost depth none
      (by rw [sameSources]; exact hostnameGiven)
    cases connected.symm.trans ranAgain
    have values := precedence.parameters address rfl name
    unfold FixtureState.allSources at values
    rw [sameSources] at values
    exact values

/-- `_connect_parameters` is restored, also where the parameters cannot be gathered again. -/
theorem leaveConnectParameters_restores (restoreParameters : Parameters Value)
    {outcome : Except (ParametersError Value) Unit} {after : FixtureState Value}
    (ran : leaveConnectParameters lookupHost depth (some restoreParameters) start =
      some (outcome, after)) :
    after.initial = restoreParameters := by
  have assigned : (Effect.modify fun state : FixtureState Value =>
      state.assignInitial restoreParameters : Gathering Value Unit) start =
        some (.ok (), start.assignInitial restoreParameters) := rfl
  have isAssigned : (start.assignInitial restoreParameters).initial = restoreParameters := by
    change ((start.mappings ++ [restoreParameters])[start.mappings.length]?).getD .empty = _
    rw [List.getElem?_concat_length]
    rfl
  have keeps : Keeps (start.assignInitial restoreParameters) (do
      let parameters ← getConnectParameters lookupHost depth none
      setConnectParameters parameters) := by
    apply keeps_bind (keeps_getConnectParametersWith (keeps_readHostname lookupHost depth) none)
    intro parameters
    exact keeps_modify (fun _ => rfl) fun _ => rfl
  unfold leaveConnectParameters at ran
  dsimp only at ran
  rw [Effect.bind_of_ok assigned] at ran
  obtain ⟨returned, raised⟩ := keeps _ ⟨rfl, fun _ _ => rfl, Nat.le_refl _⟩ _ _ ran
  rw [← isAssigned]
  cases outcome with
  | ok value => exact (returned value rfl).initial
  | error error => exact (raised error rfl).initial

theorem useConnectParameters_cases {Result : Type} {kwargs : Parameters Value}
    {body : Gathering Value Result} {outcome : Except (ParametersError Value) Result}
    {after : FixtureState Value} (kwargsGiven : kwargs.keys ≠ [])
    (ran : useConnectParameters lookupHost depth kwargs body start = some (outcome, after)) :
    (∃ error, enterConnectParameters lookupHost depth kwargs start = some (.error error, after) ∧
      outcome = .error error) ∨
    ∃ restoreParameters inside bodyOutcome ended,
      enterConnectParameters lookupHost depth kwargs start =
        some (.ok restoreParameters, inside) ∧
      InBody start kwargs inside ∧ body inside = some (bodyOutcome, ended) ∧
      after.initial = start.initial := by
  unfold useConnectParameters at ran
  cases isEntered : enterConnectParameters lookupHost depth kwargs start with
  | none =>
      change Effect.bind _ _ start = _ at ran
      rw [Effect.bind, isEntered] at ran
      cases ran
  | some entering =>
      obtain ⟨entry, inside⟩ := entering
      cases entry with
      | error error =>
          rw [Effect.bind_of_error isEntered] at ran
          cases ran
          exact .inl ⟨error, rfl, rfl⟩
      | ok restoreParameters =>
          right
          obtain ⟨rfl, inBody⟩ := enterConnectParameters_returned kwargsGiven isEntered
          rw [Effect.bind_of_ok isEntered] at ran
          cases isBody : body inside with
          | none =>
              have endless : body.attempt inside = none := by
                unfold Effect.attempt
                rw [isBody]
                rfl
              change Effect.bind _ _ inside = _ at ran
              rw [Effect.bind, endless] at ran
              cases ran
          | some ending =>
              obtain ⟨bodyOutcome, ended⟩ := ending
              have attempted : body.attempt inside = some (.ok bodyOutcome, ended) := by
                unfold Effect.attempt
                rw [isBody]
                rfl
              rw [Effect.bind_of_ok attempted] at ran
              refine ⟨some start.initial, inside, bodyOutcome, ended, rfl, inBody, isBody, ?_⟩
              cases isLeft : leaveConnectParameters lookupHost depth (some start.initial) ended with
              | none =>
                  change Effect.bind _ _ ended = _ at ran
                  rw [Effect.bind, isLeft] at ran
                  cases ran
              | some leaving =>
                  obtain ⟨leaveOutcome, last⟩ := leaving
                  have restored := leaveConnectParameters_restores _ isLeft
                  cases leaveOutcome with
                  | error error =>
                      rw [Effect.bind_of_error isLeft] at ran
                      cases ran
                      exact restored
                  | ok value =>
                      rw [Effect.bind_of_ok isLeft] at ran
                      cases bodyOutcome with
                      | ok value =>
                          cases ran
                          exact restored
                      | error error =>
                          cases ran
                          exact restored

end Connect

/-- **Every parameter comes from the first of the four sources that gives it, nothing else is
changed, and parameters that are used for a while are gone when their body has ended.** -/
theorem connectParameters_precedence
    (lookupHost : Except (ParametersError Value) (Parameters Value)) (depth : Nat)
    (state : FixtureState Value) :
    (∀ schemaGiven, (firstOf state.firstSources "hostname").isSome →
      ∃ outcome after, getConnectParameters lookupHost depth schemaGiven state =
          some (outcome, after) ∧
        Precedence (state.schemaOr schemaGiven) (firstOf state.allSources) state outcome after) ∧
    ∀ (Result : Type) (kwargs : Parameters Value) (body : Gathering Value Result),
      (kwargs.keys = [] →
        useConnectParameters lookupHost depth kwargs body state = body state) ∧
      (kwargs.keys ≠ [] → ∀ outcome after,
        useConnectParameters lookupHost depth kwargs body state = some (outcome, after) →
        (∃ error, enterConnectParameters lookupHost depth kwargs state =
          some (.error error, after) ∧ outcome = .error error) ∨
        ∃ restoreParameters inside bodyOutcome ended,
          enterConnectParameters lookupHost depth kwargs state =
            some (.ok restoreParameters, inside) ∧
          InBody state kwargs inside ∧ body inside = some (bodyOutcome, ended) ∧
          after.initial = state.initial) := by
  refine ⟨fun schemaGiven hostnameGiven =>
    getConnectParameters_precedence schemaGiven hostnameGiven, fun Result kwargs body => ?_⟩
  refine ⟨fun noKwargs => ?_, fun kwargsGiven outcome after ran =>
    useConnectParameters_cases kwargsGiven ran⟩
  have isEntered : enterConnectParameters lookupHost depth kwargs state =
      some (.ok none, state) := by
    unfold enterConnectParameters
    rw [if_pos noKwargs]
    rfl
  unfold useConnectParameters
  rw [Effect.bind_of_ok isEntered]
  change Effect.bind _ _ state = _
  unfold Effect.bind Effect.attempt
  cases body state with
  | none => rfl
  | some ended =>
      obtain ⟨outcome, after⟩ := ended
      cases outcome with
      | ok value => rfl
      | error error => rfl

/-- A fixture with a host name, and a port in its configuration that the constructor replaces. -/
def configuredFixture : FixtureState String where
  schemas := [.ofPairs [("hostname", fun value => .ok (some value)),
    ("port", fun value => .ok (some value))]]
  mappings := [.ofPairs [("hostname", some "host"), ("port", some "2222")]]
  schema := 0
  initialParameters := 0
  connectParameters := none
  globalHostConfig := some (.ofPairs [("port", some "22")])
  hostConfig := none
  attributes := fun _ => some "attribute"
  schemaThere := Nat.zero_lt_one
  initialThere := Nat.zero_lt_one

def otherPort : Parameters String := .ofPairs [("port", some "8022")]

/-- A body that drops the constructor parameters. -/
def droppingBody : Gathering String Unit := Effect.modify fun state => state.assignInitial .empty

theorem connectParameters_precedence_configured :
    (∃ outcome after, getConnectParameters (.error .recursionError) 0 none configuredFixture =
        some (outcome, after) ∧
      Precedence (configuredFixture.schemaOr none) (firstOf configuredFixture.allSources)
        configuredFixture outcome after) ∧
      ∃ inside after, useConnectParameters (.error .recursionError) 0 otherPort droppingBody
          configuredFixture = some (.ok (), after) ∧
        InBody configuredFixture otherPort inside ∧ after.initial = configuredFixture.initial := by
  obtain ⟨gathers, uses⟩ :=
    connectParameters_precedence (.error .recursionError) 0 configuredFixture
  have ran : ∃ after, useConnectParameters (.error .recursionError) 0 otherPort droppingBody
      configuredFixture = some (.ok (), after) := ⟨_, rfl⟩
  obtain ⟨after, ran⟩ := ran
  refine ⟨gathers none rfl, ?_⟩
  obtain ⟨error, -, same⟩ | ⟨_, inside, _, _, -, inBody, -, restored⟩ :=
    (uses Unit otherPort droppingBody).2 (List.cons_ne_nil _ _) _ _ ran
  · cases same
  · exact ⟨inside, after, ran, inBody, restored⟩

end Sources

end Tobiko.Shell.Ssh
