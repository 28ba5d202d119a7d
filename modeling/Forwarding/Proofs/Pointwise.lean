import Mathlib.Data.List.Forall2

/-!
# Lists that agree element by element

* `exists_of_mem_right`: an element of the second list has its counterpart in the first;
* `exists_getElem?_left`: an element of the first list has its counterpart in the same place;
* `forall₂_mem`: what is matched are elements of the lists;
* `exists_forall₂`: a list can be matched if each of its elements can;
* `forall₂_trans`: two lists that agree with a third one agree with each other;
* `forall₂_zip_left_iff`, `forall₂_zip_right_iff`: what agrees with one component of pairs;
* `map_eq_self`: what leaves each element as it is leaves the list as it is;
* `forall₂_of_flatMap_eq`: blocks of one length that follow each other can be told apart;
* `mapM_eq_pure_iff`: where a computation has a result exactly if its steps have, it has one on a
  list exactly if it has one on each element, and gives the results in order;
* `mapM_eq_ok_iff`, `mapM_eq_some_iff`: the cases of `Except` and `Option`;
* `mapM_singleton_eq_ok_iff`: the case of a list of one element;
* `mapM_except_map`: what is made of each result can be made of all results at the end.
-/

namespace Forwarding

variable {α β γ ε : Type}

theorem map_eq_self {f : α → α} {xs : List α} (h : ∀ x ∈ xs, f x = x) : xs.map f = xs :=
  (List.map_congr_left h).trans (List.map_id xs)

theorem exists_of_mem_right {R : α → β → Prop} {xs : List α} {ys : List β}
    (h : List.Forall₂ R xs ys) {y : β} (hy : y ∈ ys) : ∃ x ∈ xs, R x y := by
  induction h with
  | nil => cases hy
  | cons hxy _ ih =>
    rcases List.mem_cons.1 hy with rfl | hy
    · exact ⟨_, List.mem_cons_self, hxy⟩
    · obtain ⟨x, hx, hxy⟩ := ih hy
      exact ⟨x, List.mem_cons_of_mem _ hx, hxy⟩

theorem exists_of_mem_left {R : α → β → Prop} {xs : List α} {ys : List β}
    (h : List.Forall₂ R xs ys) {x : α} (hx : x ∈ xs) : ∃ y ∈ ys, R x y :=
  exists_of_mem_right h.flip hx

theorem exists_getElem?_left {R : α → β → Prop} {xs : List α} {ys : List β}
    (h : List.Forall₂ R xs ys) {i : ℕ} {x : α} (hx : xs[i]? = some x) :
    ∃ y, ys[i]? = some y ∧ R x y := by
  induction h generalizing i with
  | nil => cases hx
  | cons hxy _ ih =>
    cases i with
    | zero =>
      obtain rfl := Option.some.inj hx
      exact ⟨_, rfl, hxy⟩
    | succ i => exact ih hx

theorem forall₂_mem {R : α → β → Prop} {xs : List α} {ys : List β} (h : List.Forall₂ R xs ys) :
    List.Forall₂ (fun x y => x ∈ xs ∧ y ∈ ys ∧ R x y) xs ys := by
  obtain ⟨hlength, hzip⟩ := List.forall₂_iff_zip.1 h
  refine List.forall₂_iff_zip.2 ⟨hlength, fun hmem => ?_⟩
  obtain ⟨hx, hy⟩ := List.of_mem_zip hmem
  exact ⟨hx, hy, hzip hmem⟩

theorem exists_forall₂ {R : α → β → Prop} {xs : List α} (h : ∀ x ∈ xs, ∃ y, R x y) :
    ∃ ys, List.Forall₂ R xs ys := by
  induction xs with
  | nil => exact ⟨[], .nil⟩
  | cons x xs ih =>
    obtain ⟨⟨y, hy⟩, hrest⟩ := List.forall_mem_cons.1 h
    obtain ⟨ys, hys⟩ := ih hrest
    exact ⟨y :: ys, .cons hy hys⟩

theorem forall₂_trans {R : α → β → Prop} {S : β → γ → Prop} {T : α → γ → Prop}
    (h : ∀ x y z, R x y → S y z → T x z) {xs : List α} {ys : List β} {zs : List γ}
    (hxy : List.Forall₂ R xs ys) (hyz : List.Forall₂ S ys zs) : List.Forall₂ T xs zs := by
  induction hxy generalizing zs with
  | nil =>
    cases hyz
    exact .nil
  | cons hfirst _ ih =>
    obtain ⟨z, rest, hsecond, hrest, rfl⟩ := List.forall₂_cons_left_iff.1 hyz
    exact .cons (h _ _ _ hfirst hsecond) (ih hrest)

theorem forall₂_zip_left_iff {R : α → γ → Prop} {xs : List α} {ys : List β} {zs : List γ}
    (h : xs.length = ys.length) :
    List.Forall₂ (fun pair z => R pair.1 z) (xs.zip ys) zs ↔ List.Forall₂ R xs zs := by
  rw [← List.forall₂_map_left_iff, List.map_fst_zip (by omega)]

theorem forall₂_zip_right_iff {R : β → γ → Prop} {xs : List α} {ys : List β} {zs : List γ}
    (h : xs.length = ys.length) :
    List.Forall₂ (fun pair z => R pair.2 z) (xs.zip ys) zs ↔ List.Forall₂ R ys zs := by
  rw [← List.forall₂_map_left_iff, List.map_snd_zip (by omega)]

theorem forall₂_of_flatMap_eq {f : α → List γ} {g : β → List γ} {n : ℕ}
    (hf : ∀ x, (f x).length = n + 1) (hg : ∀ y, (g y).length = n + 1) {xs : List α} {ys : List β}
    (h : xs.flatMap f = ys.flatMap g) : List.Forall₂ (fun x y => f x = g y) xs ys := by
  induction xs generalizing ys with
  | nil =>
    cases ys with
    | nil => exact .nil
    | cons y ys =>
      have hlength := congrArg List.length h
      rw [List.flatMap_nil, List.flatMap_cons, List.length_append, List.length_nil, hg] at hlength
      omega
  | cons x xs ih =>
    cases ys with
    | nil =>
      have hlength := congrArg List.length h
      rw [List.flatMap_nil, List.flatMap_cons, List.length_append, List.length_nil, hf] at hlength
      omega
    | cons y ys =>
      rw [List.flatMap_cons, List.flatMap_cons] at h
      obtain ⟨hblock, hrest⟩ := List.append_inj h ((hf x).trans (hg y).symm)
      exact .cons hblock (ih hrest)

theorem mapM_eq_pure_iff {m : Type → Type} [Monad m] [LawfulMonad m]
    (hpure : ∀ {γ : Type} {a b : γ}, (pure a : m γ) = pure b → a = b)
    (hbind : ∀ {γ δ : Type} {x : m γ} {k : γ → m δ} {b : δ},
      x >>= k = pure b → ∃ a, x = pure a ∧ k a = pure b)
    {f : α → m β} {xs : List α} {ys : List β} :
    xs.mapM f = pure ys ↔ List.Forall₂ (fun x y => f x = pure y) xs ys := by
  induction xs generalizing ys with
  | nil =>
    rw [List.mapM_nil, List.forall₂_nil_left_iff]
    exact ⟨fun h => (hpure h).symm, fun h => by rw [h]⟩
  | cons x xs ih =>
    rw [List.mapM_cons, List.forall₂_cons_left_iff]
    constructor
    · intro h
      obtain ⟨y, hy, h⟩ := hbind h
      obtain ⟨rest, hrest, h⟩ := hbind h
      exact ⟨y, rest, hy, ih.1 hrest, (hpure h).symm⟩
    · rintro ⟨y, rest, hy, hrest, rfl⟩
      rw [hy, pure_bind, ih.2 hrest, pure_bind]

theorem bind_eq_ok_iff {x : Except ε α} {k : α → Except ε β} {b : β} :
    x >>= k = .ok b ↔ ∃ a, x = .ok a ∧ k a = .ok b := by
  cases x with
  | error fault => simp [bind, Except.bind]
  | ok a => simp [bind, Except.bind]

theorem map_eq_ok_iff {x : Except ε α} {f : α → β} {b : β} :
    x.map f = .ok b ↔ ∃ a, x = .ok a ∧ f a = b := by
  cases x <;> simp [Except.map]

theorem toOption_eq_some_iff {x : Except ε α} {a : α} : x.toOption = some a ↔ x = .ok a := by
  cases x <;> simp [Except.toOption]

theorem mapM_eq_ok_iff {f : α → Except ε β} {xs : List α} {ys : List β} :
    xs.mapM f = .ok ys ↔ List.Forall₂ (fun x y => f x = .ok y) xs ys :=
  mapM_eq_pure_iff Except.ok.inj bind_eq_ok_iff.1

theorem mapM_singleton_eq_ok_iff {f : α → Except ε β} {x : α} {ys : List β} :
    [x].mapM f = .ok ys ↔ ∃ y, f x = .ok y ∧ ys = [y] := by
  rw [mapM_eq_ok_iff, List.forall₂_cons_left_iff]
  constructor
  · rintro ⟨y, rest, hy, hrest, rfl⟩
    obtain rfl := List.forall₂_nil_left_iff.1 hrest
    exact ⟨y, hy, rfl⟩
  · rintro ⟨y, hy, rfl⟩
    exact ⟨y, [], hy, .nil, rfl⟩

theorem mapM_except_map (f : α → Except ε β) (g : β → γ) (xs : List α) :
    (xs.mapM fun x => (f x).map g) = (xs.mapM f).map (List.map g) := by
  induction xs with
  | nil => rfl
  | cons x xs ih =>
    rw [List.mapM_cons, List.mapM_cons, ih]
    cases f x with
    | error fault => rfl
    | ok y => cases xs.mapM f <;> rfl

theorem mapM_eq_some_iff {f : α → Option β} {xs : List α} {ys : List β} :
    xs.mapM f = some ys ↔ List.Forall₂ (fun x y => f x = some y) xs ys :=
  mapM_eq_pure_iff Option.some.inj Option.bind_eq_some_iff.1

end Forwarding
