import ModelSync.Proofs.Predicate.Reading
import ModelSync.Proofs.Request.Document
import ModelSync.Proofs.Request.Names

/-! Data stays beside the document. Whatever a record, a predicate, a token or a claim holds becomes
the value of a variable, and a document has the names and the types of its variables only. So two
requests that are made in one way have one document, whatever data either of them is made of: what
counts is which of the optional parts are given, and whether owners are named. -/
namespace ModelSync

namespace Predicate

variable {predicate : Predicate} {filter : Option Filter}

/-- The predicate that matches everything is the only one without a filter. -/
theorem isSome_of_compile (done : predicate.compile = .ok filter) :
    filter.isSome = !predicate.isAll := by
  rcases cases_of_compile done with ⟨rfl, rfl⟩ | ⟨own, compiled, rfl⟩
  · rfl
  · cases predicate with
    | all => cases compiled
    | leaf | group => rfl

private theorem isSome_of_syncFilter (done : Schema.syncFilter predicate = .ok filter) :
    filter.isSome = !predicate.isAll := by
  cases predicate with
  | leaf field operator =>
    have wrapped : (group .and [leaf field operator]).compile = .ok filter := done
    rw [isSome_of_compile wrapped]
    rfl
  | all | group => exact isSome_of_compile done

end Predicate

namespace Request

/-- Requests that differ at most in the values of their variables. -/
structure Alike (first second : Request) : Prop where
  types : first.variableTypes = second.variableTypes
  kept : second = { first with bindings := second.bindings }

variable {first second : Request}

private theorem arguments_eq (request : Request) :
    request.arguments = request.variableTypes.map fun entry => entry.1 ++ ": $" ++ entry.1 := by
  simp [arguments, variableTypes]

/-- No value is written into a document. -/
theorem Alike.document (alike : first.Alike second) : first.document = second.document := by
  have lines : first.lines = second.lines := by
    simp only [lines, declarations_eq, arguments_eq, alike.types]
    rw [alike.kept]
  simp only [Request.document, lines]

theorem payload_eq (request : Request) : request.payload =
    .obj [("query", .str request.document), ("variables", .obj request.variableValues)] := by
  have after : ¬ "variables" < "query" := by decide
  simp [payload, Json.ofMembers, Entries.ofList, Entries.insert, after]

/-- What is sent for requests that are alike differs in the values only. -/
theorem Alike.payload (alike : first.Alike second) :
    ∃ query, first.payload = .obj [("query", .str query), ("variables", .obj first.variableValues)] ∧
      second.payload = .obj [("query", .str query), ("variables", .obj second.variableValues)] := by
  refine ⟨first.document, payload_eq first, ?_⟩
  rw [alike.document]
  exact payload_eq second

theorem Alike.refl (request : Request) : request.Alike request := ⟨rfl, rfl⟩

private theorem variableTypes_bind (request : Request) (name type : String) (value : Json) :
    (request.bind name type value).variableTypes =
      Entries.insert name type request.variableTypes :=
  Entries.map_insert request.bindings.entries Binding.type name ⟨type, value⟩

/-- A variable may be bound to different values. -/
theorem Alike.bind (alike : first.Alike second) (name type : String) (value other : Json) :
    (first.bind name type value).Alike (second.bind name type other) where
  types := by rw [variableTypes_bind, variableTypes_bind, alike.types]
  kept := by
    rw [alike.kept]
    rfl

private theorem Alike.bindSome (alike : first.Alike second) (name type : String)
    {value other : Option Json} (given : value.isSome = other.isSome) :
    (first.bindSome name type value).Alike (second.bindSome name type other) := by
  cases value with
  | none =>
    cases other with
    | none => exact alike
    | some => cases given
  | some value =>
    cases other with
    | none => cases given
    | some other => exact alike.bind name type value other

private theorem Alike.nextPage (alike : first.Alike second) (token other : String) :
    (first.nextPage token).Alike (second.nextPage other) :=
  alike.bind "nextToken" "String" (.str token) (.str other)

/-- Each rule binds one variable, whatever owner the claims name for it. -/
theorem Alike.bindOwners {claims otherClaims : Claims} {type otherType : AuthType}
    {rules : List AuthRule} {owned otherOwned : Request} (alike : first.Alike second)
    (done : bindOwners claims type first rules = .ok owned)
    (otherDone : bindOwners otherClaims otherType second rules = .ok otherOwned) :
    owned.Alike otherOwned := by
  induction rules generalizing first second with
  | nil =>
    cases done
    cases otherDone
    exact alike
  | cons rule rest ih =>
    obtain ⟨owner, _, done⟩ := Except.exists_of_bind_ok done
    obtain ⟨otherOwner, _, otherDone⟩ := Except.exists_of_bind_ok otherDone
    exact ih (alike.bind rule.ownerField "String!" (.str owner) (.str otherOwner)) done otherDone

end Request

namespace Schema

/-- Two requests that are made for a model in one way, of any data: by one builder, with the same
optional parts, and then continued and decorated by the same steps. A decorator is of one schema, and
names owners in both requests or in neither. -/
inductive MakesAlike (schema : Schema) : Request → Request → Prop where
  | sync {lastSync otherSync : Option UInt64} {limit otherLimit : Option UInt32}
      {predicate otherPredicate : Predicate} {first second : Request}
      (since : lastSync.isSome = otherSync.isSome) (limited : limit.isSome = otherLimit.isSome)
      (filtered : predicate.isAll = otherPredicate.isAll)
      (built : schema.syncRequest lastSync limit predicate = .ok first)
      (otherBuilt : schema.syncRequest otherSync otherLimit otherPredicate = .ok second) :
      schema.MakesAlike first second
  | create {record otherRecord : RecordView} {first second : Request}
      (built : schema.createRequest record = .ok first)
      (otherBuilt : schema.createRequest otherRecord = .ok second) :
      schema.MakesAlike first second
  | update {record otherRecord : RecordView} {version otherVersion : UInt64}
      {predicate otherPredicate : Predicate} {first second : Request}
      (filtered : predicate.isAll = otherPredicate.isAll)
      (built : schema.updateRequest record version predicate = .ok first)
      (otherBuilt : schema.updateRequest otherRecord otherVersion otherPredicate = .ok second) :
      schema.MakesAlike first second
  | delete {id otherId : String} {version otherVersion : UInt64}
      {predicate otherPredicate : Predicate} {first second : Request}
      (filtered : predicate.isAll = otherPredicate.isAll)
      (built : schema.deleteRequest id version predicate = .ok first)
      (otherBuilt : schema.deleteRequest otherId otherVersion otherPredicate = .ok second) :
      schema.MakesAlike first second
  | subscription {feed : Feed} {first second : Request}
      (built : schema.subscriptionRequest feed = .ok first)
      (otherBuilt : schema.subscriptionRequest feed = .ok second) :
      schema.MakesAlike first second
  | nextPage {first second : Request} (made : schema.MakesAlike first second)
      (token otherToken : String) :
      schema.MakesAlike (first.nextPage token) (second.nextPage otherToken)
  | decorated {owners : Schema} {claims otherClaims : Claims} {type otherType : AuthType}
      {first second decorated otherDecorated : Request} (made : schema.MakesAlike first second)
      (binds : owners.BindsOwners claims first type ↔
        owners.BindsOwners otherClaims second otherType)
      (done : owners.decorate claims first type = .ok decorated)
      (otherDone : owners.decorate otherClaims second otherType = .ok otherDecorated) :
      schema.MakesAlike decorated otherDecorated

variable {schema : Schema} {first second : Request}

private theorem alike_of_syncRequest {lastSync otherSync : Option UInt64}
    {limit otherLimit : Option UInt32} {predicate otherPredicate : Predicate}
    (since : lastSync.isSome = otherSync.isSome) (limited : limit.isSome = otherLimit.isSome)
    (filtered : predicate.isAll = otherPredicate.isAll)
    (built : schema.syncRequest lastSync limit predicate = .ok first)
    (otherBuilt : schema.syncRequest otherSync otherLimit otherPredicate = .ok second) :
    first.Alike second := by
  obtain ⟨items, selected, built⟩ := Except.exists_of_bind_ok built
  obtain ⟨filter, compiled, built⟩ := Except.exists_of_bind_ok built
  obtain ⟨otherItems, otherSelected, otherBuilt⟩ := Except.exists_of_bind_ok otherBuilt
  obtain ⟨otherFilter, otherCompiled, otherBuilt⟩ := Except.exists_of_bind_ok otherBuilt
  obtain rfl : items = otherItems := Except.ok.inj (selected.symm.trans otherSelected)
  cases built
  cases otherBuilt
  have filters : filter.isSome = otherFilter.isSome := by
    rw [Predicate.isSome_of_syncFilter compiled, Predicate.isSome_of_syncFilter otherCompiled,
      filtered]
  refine .bindSome (.bindSome (.bindSome (.refl _) _ _ ?_) _ _ ?_) _ _ ?_
  · simpa only [Option.isSome_map] using since
  · simpa only [Option.isSome_map] using limited
  · simpa only [Option.isSome_map] using filters

/-- Mutations of one kind are alike, if both are conditional or neither is. -/
theorem alike_of_mutationRequest {change : Change} {input otherInput : Entries Json}
    {condition otherCondition : Option Filter} (given : condition.isSome = otherCondition.isSome)
    (built : schema.mutationRequest change input condition = .ok first)
    (otherBuilt : schema.mutationRequest change otherInput otherCondition = .ok second) :
    first.Alike second := by
  obtain ⟨selection, selected, built⟩ := Except.exists_of_bind_ok built
  obtain ⟨otherSelection, otherSelected, otherBuilt⟩ := Except.exists_of_bind_ok otherBuilt
  obtain rfl : selection = otherSelection := Except.ok.inj (selected.symm.trans otherSelected)
  cases built
  cases otherBuilt
  refine .bindSome (.bind (.refl _) _ _ _ _) _ _ ?_
  simpa only [Option.isSome_map] using given

private theorem alike_of_decorate {claims otherClaims : Claims} {type otherType : AuthType}
    {decorated otherDecorated : Request} (alike : first.Alike second)
    (binds : schema.BindsOwners claims first type ↔
      schema.BindsOwners otherClaims second otherType)
    (done : schema.decorate claims first type = .ok decorated)
    (otherDone : schema.decorate otherClaims second otherType = .ok otherDecorated) :
    decorated.Alike otherDecorated := by
  rcases cases_of_decorate done with ⟨unbound, rfl⟩ | ⟨bound, owned⟩
  · rcases cases_of_decorate otherDone with ⟨_, rfl⟩ | ⟨bound, _⟩
    · exact alike
    · exact absurd (binds.2 bound) unbound
  · rcases cases_of_decorate otherDone with ⟨unbound, _⟩ | ⟨_, otherOwned⟩
    · exact absurd (binds.1 bound) unbound
    · exact alike.bindOwners owned otherOwned

/-- Requests that are made in one way are alike: no builder and no later step lets data decide what
the variables are or what is selected. -/
theorem alike_of_makesAlike (made : schema.MakesAlike first second) : first.Alike second := by
  induction made with
  | sync since limited filtered built otherBuilt =>
    exact alike_of_syncRequest since limited filtered built otherBuilt
  | create built otherBuilt =>
    obtain ⟨_, _, built⟩ := createRequest_iff.1 built
    obtain ⟨_, _, otherBuilt⟩ := createRequest_iff.1 otherBuilt
    exact alike_of_mutationRequest rfl built otherBuilt
  | update filtered built otherBuilt =>
    obtain ⟨_, _, _, compiled, built⟩ := updateRequest_iff.1 built
    obtain ⟨_, _, _, otherCompiled, otherBuilt⟩ := updateRequest_iff.1 otherBuilt
    refine alike_of_mutationRequest ?_ built otherBuilt
    rw [Predicate.isSome_of_compile compiled, Predicate.isSome_of_compile otherCompiled, filtered]
  | delete filtered built otherBuilt =>
    obtain ⟨_, compiled, built⟩ := deleteRequest_iff.1 built
    obtain ⟨_, otherCompiled, otherBuilt⟩ := deleteRequest_iff.1 otherBuilt
    refine alike_of_mutationRequest ?_ built otherBuilt
    rw [Predicate.isSome_of_compile compiled, Predicate.isSome_of_compile otherCompiled, filtered]
  | subscription built otherBuilt =>
    obtain rfl := Except.ok.inj (built.symm.trans otherBuilt)
    exact .refl _
  | nextPage _ token otherToken ih => exact ih.nextPage token otherToken
  | decorated _ binds done otherDone ih => exact alike_of_decorate ih binds done otherDone

/-- A document does not depend on data. Requests that are made in one way have the same document and
declare the same variables, and what is sent for them differs in the values of the variables only,
whatever records, identifiers, versions, times, limits, predicates, tokens and claims they are made
of. -/
theorem documents_uniform (made : schema.MakesAlike first second) :
    first.document = second.document ∧ first.variableTypes = second.variableTypes ∧
      ∃ query,
        first.payload = .obj [("query", .str query), ("variables", .obj first.variableValues)] ∧
        second.payload = .obj [("query", .str query), ("variables", .obj second.variableValues)] := by
  have alike := alike_of_makesAlike made
  exact ⟨alike.document, alike.types, alike.payload⟩

/-- Claims of a caller who goes by one name everywhere. -/
def claimsOf (caller : String) : Claims := fun _ _ => .ok (some (.str caller))

theorem callers_uniform :
    ∃ request first second, journal.subscriptionRequest .onUpdate = .ok request ∧
      journal.decorate hostileClaims request .cognitoUserPools = .ok first ∧
      journal.decorate (claimsOf "ada") request .openidConnect = .ok second ∧
      first.value? "editorId" = some (.str "\x7d id") ∧
      second.value? "editorId" = some (.str "ada") ∧
      (first.nextPage "\x7d").document = (second.nextPage "").document := by
  obtain ⟨selection, built⟩ := exists_journalUpdates
  have outside (claims : Claims) (type : AuthType) : ¬ InGroup claims type journal.groupRules := by
    rintro ⟨rule, listed, _⟩
    cases listed
  obtain ⟨first, done, named⟩ : ∃ first,
      journal.decorate hostileClaims (journalUpdates selection) .cognitoUserPools = .ok first ∧
        first.value? "editorId" = some (.str "\x7d id") := ⟨_, rfl, rfl⟩
  obtain ⟨second, otherDone, otherNamed⟩ : ∃ second,
      journal.decorate (claimsOf "ada") (journalUpdates selection) .openidConnect = .ok second ∧
        second.value? "editorId" = some (.str "ada") := ⟨_, rfl, rfl⟩
  have made := MakesAlike.decorated (.subscription built built)
    (iff_of_true ⟨rfl, outside _ _⟩ ⟨rfl, outside _ _⟩) done otherDone
  exact ⟨_, first, second, built, done, otherDone, named, otherNamed,
    (documents_uniform (made.nextPage "\x7d" "")).1⟩

end Schema

end ModelSync
