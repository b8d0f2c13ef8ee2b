import ModelSync.Proofs.KeyMap
import ModelSync.Proofs.Request.Uniformity

/-! Variables that are bound one after the other. The header of the document declares what the root
field takes and what the payload has values for: each bound name once, in ascending order, with the
type and the value that it was last bound to. Nothing else of a request changes, and only bindings
of one name have an order among one another. -/
namespace ModelSync.Request

/-- A way to bind a variable. -/
inductive Step where
  | bind (name type : String) (value : Json)
  | nextPage (token : String)

namespace Step

/-- The name that is bound. -/
def name : Step → String
  | .bind name _ _ => name
  | .nextPage _ => "nextToken"

/-- What the name is bound to. -/
def binding : Step → Binding
  | .bind _ type value => ⟨type, value⟩
  | .nextPage token => ⟨"String", .str token⟩

def apply (request : Request) : Step → Request
  | .bind name type value => request.bind name type value
  | .nextPage token => request.nextPage token

end Step

/-- The request after some steps. -/
def after (request : Request) (steps : List Step) : Request := steps.foldl Step.apply request

/-- The last of the steps that bind the name binds it so. -/
def LastBound (steps : List Step) (name : String) (binding : Binding) : Prop :=
  ∃ before step after, steps = before ++ step :: after ∧ step.name = name ∧
    step.binding = binding ∧ ∀ later ∈ after, later.name ≠ name

/-- The variables that steps leave bound, in ascending order of their names, of which each occurs
once. -/
structure Bound (steps : List Step) (bindings : Entries Binding) : Prop where
  ascending : bindings.Ordered
  last : ∀ name binding, (name, binding) ∈ bindings ↔ LastBound steps name binding

/-- The steps that bind a name. -/
def stepsFor (name : String) (steps : List Step) : List Step :=
  steps.filter fun step => step.name = name

/-- The same steps in another order, which keeps the steps of each name as they were among one
another. -/
def Reordered (steps others : List Step) : Prop :=
  ∀ name, stepsFor name steps = stepsFor name others

/-- What follows the opening of the root field. -/
def selectionText (selection : List Selection) : String :=
  String.join ((Selection.linesOfAll 2 selection ++ [indent 1 ++ closeBrace, closeBrace]).map
    fun line => line ++ "\n")

variable {steps others : List Step}

/-! ## Steps -/

private theorem apply_eq (request : Request) (step : Step) :
    step.apply request =
      { request with bindings := request.bindings.insert step.name step.binding } := by
  cases step <;> rfl

/-- Steps change the variables only. -/
theorem after_eq (request : Request) (steps : List Step) :
    request.after steps = { request with bindings := (request.after steps).bindings } := by
  induction steps generalizing request with
  | nil => rfl
  | cons step rest ih =>
    rw [after, List.foldl_cons, ← after, ih, apply_eq]

/-- Bindings are put into the map of variables one after the other. -/
theorem entries_after (request : Request) (steps : List Step) :
    (request.after steps).bindings.entries =
      (steps.map fun step => (step.name, step.binding)).foldl
        (fun entries pair => entries.insert pair.1 pair.2) request.bindings.entries := by
  induction steps generalizing request with
  | nil => rfl
  | cons step rest ih =>
    rw [after, List.foldl_cons, ← after, ih, apply_eq]
    rfl

private theorem lastBound_iff {name : String} {binding : Binding} :
    LastBound steps name binding ↔
      Entries.IsLast (steps.map fun step => (step.name, step.binding)) name binding := by
  constructor
  · rintro ⟨before, step, after, rfl, rfl, rfl, last⟩
    refine ⟨_, _, by rw [List.map_append, List.map_cons], ?_⟩
    simpa using last
  · rintro ⟨before, after, same, last⟩
    obtain ⟨front, back, rfl, rfl, rest⟩ := List.map_eq_append_iff.1 same
    obtain ⟨step, later, rfl, head, rfl⟩ := List.map_eq_cons_iff.1 rest
    obtain ⟨rfl, rfl⟩ := Prod.mk.inj head
    exact ⟨front, step, later, rfl, rfl, rfl, by simpa using last⟩

/-- The bindings of one name are in the same order in both lists. -/
theorem Reordered.bindings (reordered : Reordered steps others) (name : String) :
    ((steps.map fun step => (step.name, step.binding)).filter fun pair => pair.1 = name) =
      (others.map fun step => (step.name, step.binding)).filter fun pair => pair.1 = name := by
  have own (steps : List Step) :
      ((steps.map fun step => (step.name, step.binding)).filter fun pair => pair.1 = name) =
        (stepsFor name steps).map fun step => (step.name, step.binding) := by
    rw [List.filter_map]
    rfl
  rw [own, own, reordered name]

/-! ## Requests made without variables -/

section made

variable (kind : OperationKind) (name field model : String) (selection : List Selection)

/-- The variables are a map of the bindings, as the types and the values are that are bound by
themselves. -/
theorem entries_make_after (steps : List Step) :
    ((make kind name field model selection).after steps).bindings.entries =
      Entries.ofList (steps.map fun step => (step.name, step.binding)) :=
  entries_after _ steps

private theorem bound_make_after (steps : List Step) :
    Bound steps ((make kind name field model selection).after steps).bindings.entries where
  ascending := KeyMap.ordered _
  last own binding := by
    rw [entries_make_after, Entries.mem_iff_get? (Entries.ordered_ofList _), Entries.get?_ofList,
      lastBound_iff]

private theorem make_after_of_reordered (reordered : Reordered steps others) :
    (make kind name field model selection).after steps =
      (make kind name field model selection).after others := by
  have bindings : ((make kind name field model selection).after steps).bindings =
      ((make kind name field model selection).after others).bindings := by
    apply KeyMap.ext
    rw [entries_make_after, entries_make_after, Entries.ofList_eq_of_ofKey reordered.bindings]
  rw [after_eq, bindings, ← after_eq]

end made

private theorem document_eq (request : Request) :
    request.document =
      request.kind.name ++ " " ++ request.name ++ parenthesized request.declarations ++
        openBrace ++ "\n" ++ indent 1 ++ request.field ++ parenthesized request.arguments ++
        openBrace ++ "\n" ++ selectionText request.selection := by
  simp [document, lines, selectionText, String.append_assoc]

/-- A request stays in step with its bindings. The variables that are declared, those that the root
field takes and those that values are sent for are the same ones in the same order: each bound name
once, with the type and the value of its last binding. The types and the values are those of two
maps that are kept apart. All else is as it was made, and bindings of different names may change
places. -/
theorem variables_in_step (kind : OperationKind) (name field model : String)
    (selection : List Selection) (steps : List Step) :
    let start := make kind name field model selection
    let request := start.after steps
    (∃ bindings, Bound steps bindings ∧
      request.document =
        kind.name ++ " " ++ name ++
          parenthesized (bindings.map fun entry => "$" ++ entry.1 ++ ": " ++ entry.2.type) ++
          openBrace ++ "\n" ++ indent 1 ++ field ++
          parenthesized (bindings.map fun entry => entry.1 ++ ": $" ++ entry.1) ++
          openBrace ++ "\n" ++ selectionText selection ∧
      request.payload =
        .obj [("query", .str request.document),
          ("variables", .obj (bindings.map fun entry => (entry.1, entry.2.value)))]) ∧
      request.variableTypes =
        Entries.ofList (steps.map fun step => (step.name, step.binding.type)) ∧
      request.variableValues =
        Entries.ofList (steps.map fun step => (step.name, step.binding.value)) ∧
      request = { start with bindings := request.bindings } ∧
      ∀ others, Reordered steps others →
        start.after others = request ∧ (start.after others).document = request.document ∧
          (start.after others).payload = request.payload := by
  intro start request
  have entries := entries_make_after kind name field model selection steps
  have kept : request = { start with bindings := request.bindings } := after_eq start steps
  refine ⟨⟨request.bindings.entries, bound_make_after .., ?_, payload_eq request⟩, ?_, ?_, kept, ?_⟩
  · rw [document_eq, kept]
    rfl
  · rw [variableTypes, entries, ← Entries.ofList_map _ Binding.type, List.map_map]
    rfl
  · rw [variableValues, entries, ← Entries.ofList_map _ Binding.value, List.map_map]
    rfl
  · intro others reordered
    have same : start.after others = request := (make_after_of_reordered _ _ _ _ _ reordered).symm
    exact ⟨same, by rw [same], by rw [same]⟩

/-- A page of entries is asked for twice, and an owner is named between the two. -/
def pagesThenOwner : List Step :=
  [.nextPage "first", .bind "nextToken" "ID" .null, .bind "owner" "String!" (.str "alice"),
    .nextPage "second"]

/-- The owner is named first. -/
def ownerThenPages : List Step :=
  [.bind "owner" "String!" (.str "alice"), .nextPage "first", .bind "nextToken" "ID" .null,
    .nextPage "second"]

theorem pages_reordered :
    Reordered pagesThenOwner ownerThenPages ∧
      ((make .query "SyncEntries" "syncEntries" "Entry" [.leaf "id"]).after
          ownerThenPages).payload =
        ((make .query "SyncEntries" "syncEntries" "Entry" [.leaf "id"]).after
          pagesThenOwner).payload ∧
      ((make .query "SyncEntries" "syncEntries" "Entry" [.leaf "id"]).after
          pagesThenOwner).variableTypes = [("nextToken", "String"), ("owner", "String!")] := by
  have reordered : Reordered pagesThenOwner ownerThenPages := by
    intro name
    by_cases token : name = "nextToken"
    · subst token
      rfl
    · by_cases owner : name = "owner"
      · subst owner
        rfl
      · simp [stepsFor, pagesThenOwner, ownerThenPages, Step.name, Ne.symm token, Ne.symm owner]
  obtain ⟨_, types, _, _, same⟩ :=
    variables_in_step .query "SyncEntries" "syncEntries" "Entry" [.leaf "id"] pagesThenOwner
  exact ⟨reordered, (same ownerThenPages reordered).2.2, types⟩

end ModelSync.Request
