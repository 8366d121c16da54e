import Mathlib.Data.List.Forall2
import ScriptLang.Scope.Chain

/-!
Two nests of scopes, bound to related things.

Scopes are related when they are so frame by frame, and frames when look-ups in them are: what one
binds, the other binds to something related.  Look-ups, definitions and updates keep scopes related
and fail alike.  The order in which a frame came to bind its names does not matter.
-/

namespace ScriptLang

structure FaultsAlike (places : Nat → Nat → Prop) (first second : Fault) : Prop where
  cause : first.cause = second.cause
  offset : places first.offset second.offset

/-- Results that are related, or errors that are. -/
inductive ResultsAlike {ε α β : Type} (bad : ε → ε → Prop) (good : α → β → Prop) :
    Except ε α → Except ε β → Prop where
  | ok {first : α} {second : β} (holds : good first second) :
      ResultsAlike bad good (.ok first) (.ok second)
  | error {first second : ε} (errors : bad first second) :
      ResultsAlike bad good (.error first) (.error second)

namespace ResultsAlike

variable {ε α β γ δ : Type} {bad : ε → ε → Prop} {good : α → β → Prop} {better : γ → δ → Prop}
  {first : Except ε α} {second : Except ε β}

theorem imp {worse : ε → ε → Prop} {fine : α → β → Prop}
    (alike : ResultsAlike bad good first second)
    (errors : ∀ error error', bad error error' → worse error error')
    (values : ∀ a b, good a b → fine a b) : ResultsAlike worse fine first second := by
  cases alike with
  | ok holds => exact .ok (values _ _ holds)
  | error holds => exact .error (errors _ _ holds)

theorem join {second : Except ε α} {third : Except ε β}
    (toThird : ResultsAlike bad good first third)
    (fromSecond : ResultsAlike bad good second third) :
    ResultsAlike (fun error error' => ∃ common, bad error common ∧ bad error' common)
      (fun value value' => ∃ common, good value common ∧ good value' common) first second := by
  cases toThird with
  | ok holds =>
      cases fromSecond with
      | ok holds' => exact .ok ⟨_, holds, holds'⟩
  | error errors =>
      cases fromSecond with
      | error errors' => exact .error ⟨_, errors, errors'⟩

theorem bind {next : α → Except ε γ} {next' : β → Except ε δ}
    (alike : ResultsAlike bad good first second)
    (continues : ∀ a b, good a b → ResultsAlike bad better (next a) (next' b)) :
    ResultsAlike bad better (first >>= next) (second >>= next') := by
  cases alike with
  | ok holds => exact continues _ _ holds
  | error errors => exact .error errors

theorem map {f : α → γ} {g : β → δ} (alike : ResultsAlike bad good first second)
    (maps : ∀ a b, good a b → better (f a) (g b)) :
    ResultsAlike bad better (first.map f) (second.map g) := by
  cases alike with
  | ok holds => exact .ok (maps _ _ holds)
  | error errors => exact .error errors

end ResultsAlike

variable {β γ φ ψ : Type}

section Frames

variable (cells : β → γ → Prop) (functions : φ → ψ → Prop)

/-- What one frame binds, the other binds too, to something related. -/
structure Frame.Related (first : Frame β φ) (second : Frame γ ψ) : Prop where
  findVariable : ∀ name, Option.Rel cells (first.findVariable? name) (second.findVariable? name)
  findFunction : ∀ key,
    Option.Rel functions (first.findFunction? key) (second.findFunction? key)

/-- As many blocks are open, and the frames are related one by one. -/
structure Chain.Related (first : Chain β φ) (second : Chain γ ψ) : Prop where
  locals : List.Forall₂ (Frame.Related cells functions) first.locals second.locals
  globals : Frame.Related cells functions first.globals second.globals

end Frames

variable {cells : β → γ → Prop} {functions : φ → ψ → Prop} {places : Nat → Nat → Prop}

theorem exists_of_rel_some {α β : Type} {related : α → β → Prop} {a : α} {found : Option β}
    (options : Option.Rel related (some a) found) : ∃ b, found = some b ∧ related a b := by
  cases options with
  | some holds => exact ⟨_, rfl, holds⟩

theorem eq_none_of_rel {α β : Type} {related : α → β → Prop} {found : Option β}
    (options : Option.Rel related none found) : found = none := by
  cases options with
  | none => rfl

theorem rel_imp {α β : Type} {related wider : α → β → Prop} {first : Option α}
    {second : Option β} (options : Option.Rel related first second)
    (implied : ∀ a b, related a b → wider a b) : Option.Rel wider first second := by
  cases options with
  | none => exact .none
  | some holds => exact .some (implied _ _ holds)

theorem rel_of_refl {α : Type} {related : α → α → Prop} (reflexive : ∀ a, related a a)
    (found : Option α) : Option.Rel related found found := by
  cases found with
  | none => exact .none
  | some a => exact .some (reflexive a)

theorem rel_findSome? {α β γ δ : Type} {related : α → β → Prop} {results : γ → δ → Prop}
    {first : α → Option γ} {second : β → Option δ} {as : List α} {bs : List β}
    (lists : List.Forall₂ related as bs)
    (each : ∀ a b, related a b → Option.Rel results (first a) (second b)) :
    Option.Rel results (as.findSome? first) (bs.findSome? second) := by
  induction lists with
  | nil =>
      exact .none
  | @cons a b as bs headRelated _ inductionHypothesis =>
      have head := each a b headRelated
      rw [List.findSome?_cons, List.findSome?_cons]
      generalize first a = found at head ⊢
      generalize second b = found' at head ⊢
      cases head with
      | none => exact inductionHypothesis
      | some holds => exact .some holds

namespace Frame.Related

variable {first : Frame β φ} {second : Frame γ ψ}

theorem refl {cells : β → β → Prop} {functions : φ → φ → Prop}
    (sameCell : ∀ cell, cells cell cell) (sameFunction : ∀ function, functions function function)
    (frame : Frame β φ) : Frame.Related cells functions frame frame :=
  ⟨fun name => rel_of_refl sameCell (frame.findVariable? name),
    fun key => rel_of_refl sameFunction (frame.findFunction? key)⟩

theorem imp {cells' : β → γ → Prop} {functions' : φ → ψ → Prop}
    (related : Frame.Related cells functions first second)
    (cellsImp : ∀ cell cell', cells cell cell' → cells' cell cell')
    (functionsImp : ∀ function function', functions function function' →
      functions' function function') : Frame.Related cells' functions' first second := by
  constructor
  · intro name
    exact rel_imp (related.findVariable name) cellsImp
  · intro key
    exact rel_imp (related.findFunction key) functionsImp

theorem ofEmpty (returns returns' : Option Ty) :
    Frame.Related cells functions { Frame.empty with returnType := returns }
      { Frame.empty with returnType := returns' } :=
  ⟨fun _ => .none, fun _ => .none⟩

theorem addVariable (related : Frame.Related cells functions first second) (name : String)
    {entry : β} {entry' : γ} (entries : cells entry entry') :
    Frame.Related cells functions (first.addVariable name entry)
      (second.addVariable name entry') := by
  refine ⟨?_, related.findFunction⟩
  intro other
  rw [Frame.findVariable?_addVariable, Frame.findVariable?_addVariable]
  by_cases same : other = name
  · rw [if_pos same, if_pos same]
    exact .some entries
  · rw [if_neg same, if_neg same]
    exact related.findVariable other

theorem addFunction (related : Frame.Related cells functions first second) (key : String × Nat)
    {entry : φ} {entry' : ψ} (entries : functions entry entry') :
    Frame.Related cells functions (first.addFunction key entry)
      (second.addFunction key entry') := by
  refine ⟨related.findVariable, ?_⟩
  intro other
  rw [Frame.findFunction?_addFunction, Frame.findFunction?_addFunction]
  by_cases same : other = key
  · rw [if_pos same, if_pos same]
    exact .some entries
  · rw [if_neg same, if_neg same]
    exact related.findFunction other

theorem updateVariable (related : Frame.Related cells functions first second) (name : String)
    {change : β → β} {change' : γ → γ}
    (changes : ∀ entry entry', cells entry entry' → cells (change entry) (change' entry')) :
    Frame.Related cells functions (first.updateVariable name change)
      (second.updateVariable name change') := by
  refine ⟨?_, related.findFunction⟩
  intro other
  rw [Frame.findVariable?_updateVariable, Frame.findVariable?_updateVariable]
  have here := related.findVariable other
  by_cases same : other = name
  · rw [if_pos same, if_pos same]
    generalize first.findVariable? other = found at here ⊢
    generalize second.findVariable? other = found' at here ⊢
    cases here with
    | none => exact .none
    | some entries => exact .some (changes _ _ entries)
  · rw [if_neg same, if_neg same]
    exact here

theorem defineVariable (related : Frame.Related cells functions first second) (name : String)
    {entry : β} {entry' : γ} (entries : cells entry entry') {offset offset' : Nat}
    (here : places offset offset') :
    ResultsAlike (FaultsAlike places) (Frame.Related cells functions)
      (first.defineVariable name entry offset) (second.defineVariable name entry' offset') := by
  have bound := related.findVariable name
  unfold Frame.defineVariable
  generalize first.findVariable? name = found at bound ⊢
  generalize second.findVariable? name = found' at bound ⊢
  cases bound with
  | none => exact .ok (related.addVariable name entries)
  | some _ => exact .error ⟨rfl, here⟩

theorem defineFunction (related : Frame.Related cells functions first second)
    (key : String × Nat) {entry : φ} {entry' : ψ} (entries : functions entry entry')
    {offset offset' : Nat} (here : places offset offset') :
    ResultsAlike (FaultsAlike places) (Frame.Related cells functions)
      (first.defineFunction key entry offset) (second.defineFunction key entry' offset') := by
  have bound := related.findFunction key
  unfold Frame.defineFunction
  generalize first.findFunction? key = found at bound ⊢
  generalize second.findFunction? key = found' at bound ⊢
  cases bound with
  | none => exact .ok (related.addFunction key entries)
  | some _ => exact .error ⟨rfl, here⟩

end Frame.Related

namespace Chain.Related

variable {first : Chain β φ} {second : Chain γ ψ}

theorem ofGlobals {globals : Frame β φ} {globals' : Frame γ ψ}
    (related : Frame.Related cells functions globals globals') :
    Chain.Related cells functions (.ofGlobals globals) (.ofGlobals globals') :=
  ⟨.nil, related⟩

theorem frames (related : Chain.Related cells functions first second) :
    List.Forall₂ (Frame.Related cells functions) first.frames second.frames :=
  List.rel_append related.locals (.cons related.globals .nil)

theorem findFunction? (related : Chain.Related cells functions first second)
    (key : String × Nat) :
    Option.Rel functions (first.findFunction? key) (second.findFunction? key) :=
  rel_findSome? related.frames fun _ _ frameRelated => frameRelated.findFunction key

theorem lookupVariable (related : Chain.Related cells functions first second) (name : String)
    {offset offset' : Nat} (here : places offset offset') :
    ResultsAlike (FaultsAlike places) cells (first.lookupVariable name offset)
      (second.lookupVariable name offset') := by
  have found : Option.Rel cells (first.findVariable? name) (second.findVariable? name) :=
    rel_findSome? related.frames fun _ _ frameRelated => frameRelated.findVariable name
  unfold Chain.lookupVariable
  generalize first.findVariable? name = entry at found ⊢
  generalize second.findVariable? name = entry' at found ⊢
  cases found with
  | none => exact .error ⟨rfl, here⟩
  | some entries => exact .ok entries

theorem lookupFunction (related : Chain.Related cells functions first second)
    (key : String × Nat) {offset offset' : Nat} (here : places offset offset') :
    ResultsAlike (FaultsAlike places) functions (first.lookupFunction key offset)
      (second.lookupFunction key offset') := by
  have found := related.findFunction? key
  unfold Chain.lookupFunction
  generalize first.findFunction? key = entry at found ⊢
  generalize second.findFunction? key = entry' at found ⊢
  cases found with
  | none => exact .error ⟨rfl, here⟩
  | some entries => exact .ok entries

theorem push (related : Chain.Related cells functions first second) {frame : Frame β φ}
    {frame' : Frame γ ψ} (frames : Frame.Related cells functions frame frame') :
    Chain.Related cells functions (first.push frame) (second.push frame') :=
  ⟨.cons frames related.locals, related.globals⟩

theorem tail (related : Chain.Related cells functions first second) :
    Chain.Related cells functions { first with locals := first.locals.tail }
      { second with locals := second.locals.tail } := by
  refine ⟨?_, related.globals⟩
  have locals := related.locals
  generalize first.locals = frames at locals ⊢
  generalize second.locals = frames' at locals ⊢
  cases locals with
  | nil => exact .nil
  | cons _ outer => exact outer

theorem innermost (related : Chain.Related cells functions first second) :
    Frame.Related cells functions first.innermost second.innermost := by
  obtain ⟨locals, globals⟩ := first
  obtain ⟨locals', globals'⟩ := second
  obtain ⟨localsRelated, globalsRelated⟩ := related
  cases localsRelated with
  | nil => exact globalsRelated
  | cons frames _ => exact frames

theorem withInnermost (related : Chain.Related cells functions first second) {frame : Frame β φ}
    {frame' : Frame γ ψ} (frames : Frame.Related cells functions frame frame') :
    Chain.Related cells functions (first.withInnermost frame) (second.withInnermost frame') := by
  obtain ⟨locals, globals⟩ := first
  obtain ⟨locals', globals'⟩ := second
  obtain ⟨localsRelated, globalsRelated⟩ := related
  cases localsRelated with
  | nil => exact ⟨.nil, frames⟩
  | cons _ outer => exact ⟨.cons frames outer, globalsRelated⟩

theorem defineVariable (related : Chain.Related cells functions first second) (name : String)
    {entry : β} {entry' : γ} (entries : cells entry entry') {offset offset' : Nat}
    (here : places offset offset') :
    ResultsAlike (FaultsAlike places) (Chain.Related cells functions)
      (first.defineVariable name entry offset) (second.defineVariable name entry' offset') :=
  (related.innermost.defineVariable name entries here).map fun _ _ => related.withInnermost

theorem defineFunction (related : Chain.Related cells functions first second)
    (key : String × Nat) {entry : φ} {entry' : ψ} (entries : functions entry entry')
    {offset offset' : Nat} (here : places offset offset') :
    ResultsAlike (FaultsAlike places) (Chain.Related cells functions)
      (first.defineFunction key entry offset) (second.defineFunction key entry' offset') :=
  (related.innermost.defineFunction key entries here).map fun _ _ => related.withInnermost

theorem updateFirst {frames : List (Frame β φ)} {frames' : List (Frame γ ψ)}
    (related : List.Forall₂ (Frame.Related cells functions) frames frames') (name : String)
    {change : β → β} {change' : γ → γ}
    (changes : ∀ entry entry', cells entry entry' → cells (change entry) (change' entry')) :
    Option.Rel (List.Forall₂ (Frame.Related cells functions))
      (Chain.updateFirst name change frames) (Chain.updateFirst name change' frames') := by
  induction related with
  | nil =>
      exact .none
  | @cons frame frame' outer outer' headRelated tailRelated inductionHypothesis =>
      have bound := headRelated.findVariable name
      unfold Chain.updateFirst
      generalize frame.findVariable? name = found at bound ⊢
      generalize frame'.findVariable? name = found' at bound ⊢
      cases bound with
      | some _ =>
          exact .some (.cons (headRelated.updateVariable name changes) tailRelated)
      | none =>
          dsimp only
          generalize Chain.updateFirst name change outer = rest at inductionHypothesis ⊢
          generalize Chain.updateFirst name change' outer' = rest' at inductionHypothesis ⊢
          cases inductionHypothesis with
          | none => exact .none
          | some restRelated => exact .some (.cons headRelated restRelated)

theorem updateVariable (related : Chain.Related cells functions first second) (name : String)
    {change : β → β} {change' : γ → γ}
    (changes : ∀ entry entry', cells entry entry' → cells (change entry) (change' entry')) :
    Chain.Related cells functions (first.updateVariable name change)
      (second.updateVariable name change') := by
  have updated := updateFirst related.locals name changes
  unfold Chain.updateVariable
  generalize Chain.updateFirst name change first.locals = locals at updated ⊢
  generalize Chain.updateFirst name change' second.locals = locals' at updated ⊢
  cases updated with
  | none => exact ⟨related.locals, related.globals.updateVariable name changes⟩
  | some localsRelated => exact ⟨localsRelated, related.globals⟩

end Chain.Related
end ScriptLang
