import ModelSync.Proofs.Decoration
import ModelSync.Proofs.Subscription.Choices
import ModelSync.Request.Builders

/-! What the endpoint is told of the caller. A subscription whose requests are decorated with
the caller's claims sends them only with user credentials, only for a fixed type or a candidate
for owners, and only to models with owner rules; where it has to name the owner it never sends
a request that does not. -/
namespace ModelSync

variable {α : Type}

/-- What is sent for the item at a position may name the caller: the source is a fixed type, or
the item is a candidate for owners. -/
def Candidates.MayOwn (source : Candidates) (position : Nat) : Prop :=
  match source with
  | .fixed _ => True
  | .sequence item? =>
    ∃ candidate, item? position = some (.ok candidate) ∧ candidate.strategy = .owner

private theorem Candidates.decorate_iff_mayOwn {source : Candidates} {position : Nat}
    {attempt : Attempt} (found : source.attempt? position = some (.ok attempt)) :
    attempt.decorate = true ↔ source.MayOwn position := by
  cases source with
  | fixed type =>
    cases position with
    | zero =>
      cases found
      simp [MayOwn]
    | succ position => cases found
  | sequence item? =>
    obtain ⟨item, held, mapped⟩ := Option.map_eq_some_iff.1 found
    cases item with
    | error fault => cases mapped
    | ok candidate =>
      cases mapped
      simp [MayOwn, held, AuthCandidate.isOwner]

private theorem Schema.subscriptionRequest_kind {schema : Schema} {feed : Feed} {request : Request}
    (built : schema.subscriptionRequest feed = .ok request) : request.kind = .subscription := by
  obtain ⟨selection, _, done⟩ := Except.exists_of_bind_ok built
  cases done
  rfl

/-- Every call of a run is made for the item that was consumed last. Without user credentials,
for a candidate that is not for owners, or for a model without owner rules it carries the
request as it was built, whatever the claims are. Else the claims place the caller in a group
of the model and the request is left as it is, or it names the owner for every owner rule. What
cannot be decorated is not sent. -/
theorem calls_guarded {schema : Schema} {feed : Feed} {request : Request}
    (built : schema.subscriptionRequest feed = .ok request) (claims : Claims)
    (decode : Decoder (Response α)) (source : Candidates) (moves : List Move) :
    let operation := Operation.make ⟨request, .owners schema claims, decode⟩ source
    (∀ attempt call, (operation.run moves).calls[attempt]? = some call →
      ∃ position, operation.CalledFor moves attempt call position) ∧
    ∀ attempt call position, operation.CalledFor moves attempt call position →
      (∃ candidate, source.attempt? position = some (.ok candidate) ∧
        call.type = candidate.type) ∧
      (call.type.hasIdentity = false ∨ ¬source.MayOwn position ∨ schema.hasOwnerRule = false →
        call.request = request) ∧
      (call.type.hasIdentity = true → source.MayOwn position → schema.hasOwnerRule = true →
        InGroup claims call.type schema.groupRules ∧ call.request = request ∨
          Owned claims call.type schema.ownerRules request call.request) ∧
      (source.MayOwn position → schema.decorate claims request call.type = .ok call.request) := by
  refine ⟨fun _ _ => Operation.exists_calledFor _ source moves, ?_⟩
  intro attempt call position called
  obtain ⟨candidate, found, type, makes⟩ := Operation.makes_of_calledFor _ source called
  have owns := Candidates.decorate_iff_mayOwn found
  have needs : schema.needsOwner request call.type =
      (call.type.hasIdentity && schema.hasOwnerRule) := by
    simp [Schema.needsOwner, Schema.subscriptionRequest_kind built]
  have decorated (mayOwn : source.MayOwn position) :
      schema.decorate claims request call.type = .ok call.request := by
    rw [if_pos (owns.2 mayOwn)] at makes
    obtain ⟨_, answer⟩ := makes
    rw [type]
    exact answer
  refine ⟨⟨candidate, found, type⟩, fun exempt => ?_, fun identity mayOwn ownerRule => ?_, decorated⟩
  · by_cases mayOwn : source.MayOwn position
    · rcases Schema.decorated_or_kept (decorated mayOwn) with ⟨_, kept⟩ | ⟨needed, _⟩
      · exact kept
      · simp only [needs, Bool.and_eq_true] at needed
        simp [needed, mayOwn] at exempt
    · rwa [if_neg fun owner => mayOwn (owns.1 owner)] at makes
  · rcases Schema.decorated_or_kept (decorated mayOwn) with ⟨plain | member, kept⟩ | ⟨_, owned⟩
    · simp [needs, identity, ownerRule] at plain
    · exact .inl ⟨member, kept⟩
    · exact .inr owned

/-! ## A caller who is named -/

/-- A model whose notes belong to their owners. -/
def ownedNotes : Schema :=
  ⟨"Note", none, [.required idField (.scalar .id), .optional "owner" (.scalar .string)], .empty,
    [{ strategy := .owner }]⟩

/-- The claims of a caller named Alice. -/
def claimsOfAlice : Claims := fun _ name =>
  .ok (if name = "username" then some (.str "alice") else none)

/-- A request for new notes. -/
def noteRequest (selection : List Selection) : Request :=
  .make .subscription "OnCreateNote" "onCreateNote" "Note" selection

theorem ownedNotes_request :
    ∃ selection, ownedNotes.subscriptionRequest .onCreate = .ok (noteRequest selection) := by
  have expanded : ∃ trees, ownedNotes.expand = .ok trees := by
    simp only [ownedNotes, Schema.expand, Schema.expandFields, Schema.expandField,
      ModelField.required, ModelField.optional]
    exact ⟨_, rfl⟩
  obtain ⟨trees, expanded⟩ := expanded
  exact ⟨_, by rw [Schema.subscriptionRequest, Schema.recordSelection, expanded]; rfl⟩

theorem alice_named :
    ∃ selection, ownedNotes.subscriptionRequest .onCreate = .ok (noteRequest selection) ∧
      Owned claimsOfAlice .cognitoUserPools ownedNotes.ownerRules (noteRequest selection)
        ((noteRequest selection).bind "owner" "String!" (.str "alice")) := by
  obtain ⟨selection, built⟩ := ownedNotes_request
  obtain ⟨_, guarded⟩ := calls_guarded built claimsOfAlice Operation.samplePlan.decode
    (.fixed .cognitoUserPools) [.start, .step 0, .step 0, .step 0, .step 0, .step 0]
  have called := guarded 0
    ⟨(noteRequest selection).bind "owner" "String!" (.str "alice"), .cognitoUserPools⟩ 0
    ⟨[.start, .step 0, .step 0, .step 0, .step 0], .step 0, [], rfl, rfl, rfl, rfl⟩
  have outside : ¬InGroup claimsOfAlice .cognitoUserPools ownedNotes.groupRules := by
    rintro ⟨rule, listed, _⟩
    cases listed
  exact ⟨selection, built, (called.2.2.1 rfl trivial rfl).resolve_left fun member => outside member.1⟩

end ModelSync
