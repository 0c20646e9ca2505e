import CompositeKey.Document.Decoder

/-!
# What becomes of a decoding

When a document is changed, what was decoded of it is kept, or decoding breaks.  Either
spreads from a part of a decoding to the whole.
-/

set_option autoImplicit false

namespace CompositeKey

inductive Effect where
  | keeps
  | breaks

def Effect.on {α : Type} : Effect → α → Option α
  | .keeps, result => some result
  | .breaks, _ => none

namespace Decoding

variable {α β γ : Type} {effect : Effect}

theorem bind_eq_some_iff {first : Decoding α} {next : α → Decoding β} {links left : Nat}
    {result : β} :
    (first >>= next).run links = some (result, left) ↔
      ∃ value middle, first.run links = some (value, middle) ∧
        (next value).run middle = some (result, left) := by
  rw [StateT.run_bind]
  constructor
  · intro run
    obtain ⟨⟨value, middle⟩, begun, ended⟩ := Option.bind_eq_some_iff.mp run
    exact ⟨value, middle, begun, ended⟩
  · rintro ⟨value, middle, begun, ended⟩
    exact Option.bind_eq_some_iff.mpr ⟨(value, middle), begun, ended⟩

/-- Wherever the old decoding succeeds, the new one has the effect on its result.  Nothing
is said where the old one fails. -/
def Responds (effect : Effect) (old new : Decoding α) : Prop :=
  ∀ links result, old.run links = some result → new.run links = effect.on result

theorem responds_self (decoding : Decoding α) : Responds .keeps decoding decoding :=
  fun _ _ run => run

theorem responds_of_failure (new : Decoding α) : Responds effect failure new := by
  intro links result run
  cases run

theorem responds_failure (old : Decoding α) : Responds .breaks old failure :=
  fun _ _ _ => rfl

theorem Responds.bind {old new : Decoding α} (responds : Responds effect old new)
    (next : α → Decoding β) : Responds effect (old >>= next) (new >>= next) := by
  intro links result run
  obtain ⟨value, middle, begun, ended⟩ := bind_eq_some_iff.mp run
  rw [StateT.run_bind, responds links (value, middle) begun]
  cases effect with
  | keeps => exact ended
  | breaks => rfl

theorem responds_bind (first : Decoding α) {old new : α → Decoding β}
    (responds : ∀ value, Responds effect (old value) (new value)) :
    Responds effect (first >>= old) (first >>= new) := by
  intro links result run
  obtain ⟨value, middle, begun, ended⟩ := bind_eq_some_iff.mp run
  rw [StateT.run_bind, begun]
  exact responds value middle result ended

theorem Responds.map {old new : Decoding α} (responds : Responds effect old new) (f : α → β) :
    Responds effect (f <$> old) (f <$> new) := by
  rw [map_eq_pure_bind, map_eq_pure_bind]
  exact responds.bind _

theorem responds_mapM {read : γ → Decoding α} {old new : γ}
    (responds : Responds effect (read old) (read new)) (before after : List γ) :
    Responds effect ((before ++ old :: after).mapM read) ((before ++ new :: after).mapM read) := by
  induction before with
  | nil =>
      rw [List.nil_append, List.nil_append, List.mapM_cons, List.mapM_cons]
      exact responds.bind _
  | cons item rest ih =>
      rw [List.cons_append, List.cons_append, List.mapM_cons, List.mapM_cons]
      exact responds_bind _ fun _ => ih.bind _

end Decoding

namespace Decoder

variable {δ α : Type} {effect : Effect} {decoder : Decoder δ α} {old new : δ}

def Responds (effect : Effect) (decoder : Decoder δ α) (old new : δ) : Prop :=
  ∀ levels, Decoding.Responds effect (decoder levels old) (decoder levels new)

theorem Responds.run_eq (responds : Responds effect decoder old new) {levels links : Nat}
    {value : α} (accepted : decoder.run levels links old = some value) :
    decoder.run levels links new = effect.on value := by
  obtain ⟨⟨result, left⟩, run, same⟩ := Option.map_eq_some_iff.mp accepted
  cases same
  have changed := responds levels links (result, left) run
  cases effect with
  | keeps => exact congrArg (Option.map Prod.fst) changed
  | breaks => exact congrArg (Option.map Prod.fst) changed

end Decoder

end CompositeKey
