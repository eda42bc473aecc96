import RemoteQuery.Proofs.Wire.Reading
/-!
Decoders that refuse a value for one reason alone: a comparison has nothing to compare with. Such an
answer is known in full from one condition, and the conditions of members add up.
-/

namespace RemoteQuery

def missingValue : FormatError := .missingKey "predicate" "value"

structure AcceptedIf {α : Type} (p : Prop) (a : α) (d : Decoded α) : Prop where
  accepts : p → d = .ok a
  refuses : ¬p → d = .error missingValue

namespace AcceptedIf

variable {α β : Type} {p q : Prop} {a : α} {b : β} {d : Decoded α}

theorem of_ok (h : d = .ok a) : AcceptedIf True a d := ⟨fun _ => h, fun hn => absurd trivial hn⟩

theorem congr (hpq : p ↔ q) (h : AcceptedIf p a d) : AcceptedIf q a d :=
  ⟨fun hq => h.accepts (hpq.2 hq), fun hq => h.refuses (mt hpq.1 hq)⟩

theorem ok_iff (h : AcceptedIf p a d) : d = .ok a ↔ p := by
  constructor
  · intro hd
    apply Classical.byContradiction
    intro hp
    rw [h.refuses hp] at hd
    cases hd
  · exact h.accepts

theorem bind {f : α → Decoded β} (h : AcceptedIf p a d) (hf : AcceptedIf q b (f a)) :
    AcceptedIf (p ∧ q) b (d >>= f) := by
  by_cases hp : p
  · rw [h.accepts hp, Decoded.ok_bind]
    exact hf.congr ⟨fun hq => ⟨hp, hq⟩, And.right⟩
  · rw [h.refuses hp, Decoded.error_bind]
    exact ⟨fun hpq => absurd hpq.1 hp, fun _ => rfl⟩

theorem map {f : α → β} (h : AcceptedIf p a d) (hb : f a = b) : AcceptedIf p b (d.map f) := by
  subst hb
  constructor
  · intro hp
    rw [h.accepts hp]
    rfl
  · intro hp
    rw [h.refuses hp]
    rfl

theorem readAll {read : Json → Decoded α} {write : α → Json} {legal : α → Prop} {as : List α}
    (h : ∀ a ∈ as, AcceptedIf (legal a) a (read (write a))) :
    AcceptedIf (∀ a ∈ as, legal a) as (Wire.readAll read (as.map write)) := by
  induction as with
  | nil => exact ⟨fun _ => rfl, fun hn => absurd (fun _ ha => by cases ha) hn⟩
  | cons a rest ih =>
      have ha := h a (List.mem_cons_self ..)
      have hrest := ih fun b hb => h b (List.mem_cons_of_mem _ hb)
      have hpure : AcceptedIf True (a :: rest) (pure (a :: rest) : Decoded (List α)) := of_ok rfl
      apply (ha.bind (hrest.bind hpure)).congr
      simp only [and_true, List.mem_cons, forall_eq_or_imp]

theorem listOf (context : String) {read : Json → Decoded α} {write : α → Json} {legal : α → Prop}
    {as : List α} (h : ∀ a ∈ as, AcceptedIf (legal a) a (read (write a))) :
    AcceptedIf (∀ a ∈ as, legal a) as (Wire.listOf context read (Json.listOf write as)) :=
  readAll h

theorem readOption {read : Json → Decoded α} {write : α → Json} {legal : α → Prop} {o : Option α}
    (h : ∀ a, o = some a → AcceptedIf (legal a) a (read (write a))) :
    AcceptedIf (∀ a, o = some a → legal a) o (Wire.readOption read (o.map write)) := by
  cases o with
  | none => exact ⟨fun _ => rfl, fun hn => absurd (fun _ ho => by cases ho) hn⟩
  | some a =>
      apply ((h a rfl).map rfl).congr
      simp only [Option.some.injEq, forall_eq']

end AcceptedIf

end RemoteQuery
