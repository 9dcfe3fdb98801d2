import Linguist.Notice

/-!
# Linguist — results without their notices

What a computation comes to, once notices and the reason of a failure are left
out: a value or none. Computations in a row come to what their values do.

* `Logged.value?` — the value of a computation that did not fail.
* `Logged.Yields` — a property of the value, if there is one.
-/

namespace Linguist

@[simp] theorem toOption_ok {ε α : Type} (a : α) : (Except.ok a : Except ε α).toOption = some a :=
  rfl

@[simp] theorem toOption_error {ε α : Type} (e : ε) :
    (Except.error e : Except ε α).toOption = none :=
  rfl

@[simp] theorem toOption_bind {ε α β : Type} (x : Except ε α) (f : α → Except ε β) :
    (x >>= f).toOption = x.toOption.bind fun a => (f a).toOption := by
  cases x <;> rfl

@[simp] theorem toOption_pure {ε α : Type} (a : α) : (pure a : Except ε α).toOption = some a :=
  rfl

@[simp] theorem toOption_map {ε α β : Type} (f : α → β) (x : Except ε α) :
    (f <$> x).toOption = x.toOption.map f := by
  cases x <;> rfl

@[simp] theorem toOption_mapError {ε δ α : Type} (f : ε → δ) (x : Except ε α) :
    (x.mapError f).toOption = x.toOption := by
  cases x <;> rfl

theorem toOption_eq_some_iff {ε α : Type} {x : Except ε α} {a : α} :
    x.toOption = some a ↔ x = .ok a := by
  cases x <;> simp

namespace Logged

variable {ε α β : Type}

theorem bind_of_ok {x : Logged ε α} {f : α → Logged ε β} {a : α} (h : x.result = .ok a) :
    x >>= f = ⟨x.notices ++ (f a).notices, (f a).result⟩ := by
  show x.andThen f = _
  rw [andThen, h]

theorem bind_of_error {x : Logged ε α} {f : α → Logged ε β} {e : ε} (h : x.result = .error e) :
    x >>= f = ⟨x.notices, .error e⟩ := by
  show x.andThen f = _
  rw [andThen, h]

/-- Notices are kept in order, so it does not matter how computations in a row are grouped. -/
theorem andThen_assoc {γ : Type} (x : Logged ε α) (f : α → Logged ε β) (g : β → Logged ε γ) :
    x >>= f >>= g = x >>= fun a => f a >>= g := by
  obtain ⟨notices, result⟩ := x
  cases result with
  | error e => rfl
  | ok a =>
    show andThen ⟨notices ++ (f a).notices, (f a).result⟩ g
      = ⟨notices ++ (andThen (f a) g).notices, (andThen (f a) g).result⟩
    unfold andThen
    cases (f a).result with
    | error e => rfl
    | ok b => simp only [List.append_assoc]

theorem map_id (x : Logged ε α) : id <$> x = x := by
  obtain ⟨notices, result⟩ := x
  cases result with
  | error e => rfl
  | ok a =>
    show (⟨notices ++ [], .ok a⟩ : Logged ε α) = ⟨notices, .ok a⟩
    rw [List.append_nil]

instance : LawfulMonad (Logged ε) :=
  LawfulMonad.mk' (Logged ε) map_id (fun _ _ => rfl) andThen_assoc

/-- Results without notices may be put in a row first. -/
theorem ofExcept_bind (x : Except ε α) (f : α → Except ε β) :
    ofExcept (x >>= f) = ofExcept x >>= fun a => ofExcept (f a) := by
  cases x <;> rfl

instance : LawfulMonadLift (Except ε) (Logged ε) where
  monadLift_pure _ := rfl
  monadLift_bind := ofExcept_bind

/-- The value of a computation that did not fail. -/
def value? (x : Logged ε α) : Option α :=
  x.result.toOption

@[simp] theorem value?_pure (a : α) : (pure a : Logged ε α).value? = some a :=
  rfl

@[simp] theorem value?_bind (x : Logged ε α) (f : α → Logged ε β) :
    (x >>= f).value? = x.value?.bind fun a => (f a).value? := by
  obtain ⟨notices, result⟩ := x
  cases result <;> rfl

@[simp] theorem value?_map (f : α → β) (x : Logged ε α) : (f <$> x).value? = x.value?.map f := by
  obtain ⟨notices, result⟩ := x
  cases result <;> rfl

@[simp] theorem value?_fail (e : ε) : (fail e : Logged ε α).value? = none :=
  rfl

@[simp] theorem value?_note (notice : Notice) : (note notice : Logged ε Unit).value? = some () :=
  rfl

@[simp] theorem value?_liftM (x : Except ε α) : (liftM x : Logged ε α).value? = x.toOption :=
  rfl

@[simp] theorem value?_ofExcept (x : Except ε α) : (ofExcept x : Logged ε α).value? = x.toOption :=
  rfl

@[simp] theorem value?_mapError {δ : Type} (f : ε → δ) (x : Logged ε α) :
    (x.mapError f).value? = x.value? :=
  toOption_mapError f x.result

/-! ## What values have in common -/

/-- Whether the value of a computation has a property, if there is a value. -/
def Yields (x : Logged ε α) (property : α → Prop) : Prop :=
  ∀ a, x.value? = some a → property a

theorem Yields.pure {property : α → Prop} {a : α} (h : property a) :
    Yields (Pure.pure a : Logged ε α) property := by
  intro b hb
  exact Option.some.inj hb ▸ h

theorem Yields.fail {property : α → Prop} (e : ε) :
    Yields (Logged.fail e : Logged ε α) property := by
  intro a ha
  exact absurd ha (by simp)

/-- A computation in a row has what its last part has, whatever the first part came to. -/
theorem Yields.bind {x : Logged ε α} {f : α → Logged ε β} {first : α → Prop} {last : β → Prop}
    (hFirst : Yields x first) (hLast : ∀ a, first a → Yields (f a) last) :
    Yields (x >>= f) last := by
  intro b hb
  rw [value?_bind] at hb
  obtain ⟨a, ha, hb⟩ := Option.bind_eq_some_iff.mp hb
  exact hLast a (hFirst a ha) b hb

theorem Yields.trivial (x : Logged ε α) : Yields x fun _ => True :=
  fun _ _ => .intro

end Logged

end Linguist
