import Forwarding.Proofs.Crate.Naming

/-!
# The search for a free name

A name that is taken is tried with one number after the other until it is free.  The search needs no
bound: as the candidates are all different, it makes no more rounds than there are taken names.

* `Search.step`, `Search.run`: the rounds of the search;
* `Search.run_of_taken`, `Search.run_of_free`: how it goes on, and how it ends;
* `Search.ends_freeName`: it ends in the name that is given, after as many rounds as there are taken
  names at most;
* `take_freeNames`: names that come later do not change the names given before;
* `distinctNames_search`: all this for the names of a list.
-/

namespace Forwarding

/-- A search under way: the candidate at hand, and how many numbers have been tried. -/
structure Search where
  candidate : String
  number : ℕ
  deriving DecidableEq, Repr

namespace Search

variable {taken : List String} {base : String}

/-- One round.  A candidate that is taken gives way to the base with the next number; a search that
has come to a free candidate stays as it is. -/
def step (taken : List String) (base : String) (search : Search) : Search :=
  if search.candidate ∈ taken then ⟨numbered base search.number, search.number + 1⟩ else search

/-- The search after some rounds, beginning with the base itself. -/
def run (taken : List String) (base : String) : ℕ → Search
  | 0 => ⟨base, 0⟩
  | rounds + 1 => step taken base (run taken base rounds)

/-- The search goes on for exactly so many rounds, each with the next number, and ends with the
result, which is free. -/
structure Ends (taken : List String) (base : String) (number : ℕ) (result : String) : Prop where
  goes_on : ∀ rounds < number, (run taken base rounds).candidate ∈ taken
  ended : ∀ rounds, number ≤ rounds → run taken base rounds = ⟨result, number⟩
  free : result ∉ taken

theorem step_of_taken {search : Search} (h : search.candidate ∈ taken) :
    step taken base search = ⟨numbered base search.number, search.number + 1⟩ := if_pos h

theorem step_of_free {search : Search} (h : search.candidate ∉ taken) :
    step taken base search = search := if_neg h

/-- As long as the candidates are taken each round comes to the next one. -/
theorem run_of_taken {n : ℕ} (h : ∀ m < n, attempt base m ∈ taken) :
    run taken base n = ⟨attempt base n, n⟩ := by
  induction n with
  | zero => rfl
  | succ n ih =>
    rw [run, ih fun m hm => h m (Nat.lt_succ_of_lt hm)]
    exact step_of_taken (h n n.lt_succ_self)

/-- The search stays with the first candidate that is free. -/
theorem run_of_free {n rounds : ℕ} (hfree : (run taken base n).candidate ∉ taken)
    (h : n ≤ rounds) : run taken base rounds = run taken base n := by
  induction rounds, h using Nat.le_induction with
  | base => rfl
  | succ rounds _ ih => rw [run, ih, step_of_free hfree]

/-- The search ends in the name that is given, and has tried no more numbers than there are taken
names. -/
theorem ends_freeName (taken : List String) (base : String) :
    ∃ number ≤ taken.length, Ends taken base number (freeName taken base) := by
  obtain ⟨n, hfree, htaken⟩ := exists_first_attempt taken base
  have hresult : freeName taken base = attempt base n :=
    freeName_eq_attempt hfree htaken
  have hrun : run taken base n = ⟨attempt base n, n⟩ := run_of_taken htaken
  have hends : Ends taken base n (attempt base n) :=
    { goes_on := by
        intro rounds hrounds
        rw [run_of_taken fun m hm => htaken m (hm.trans hrounds)]
        exact htaken rounds hrounds
      ended := by
        intro rounds hrounds
        rw [run_of_free (by rwa [hrun]) hrounds, hrun]
      free := hfree }
  exact ⟨n, le_length_of_attempts_mem htaken, hresult ▸ hends⟩

end Search

/-- A name that is taken gets the least number that makes it free. -/
theorem exists_least_numbered {taken : List String} {base : String} (h : base ∈ taken) :
    ∃ number, freeName taken base = numbered base number ∧ numbered base number ∉ taken ∧
      ∀ smaller < number, numbered base smaller ∈ taken := by
  obtain ⟨n, hfree, htaken⟩ := exists_first_attempt taken base
  cases n with
  | zero => exact absurd h hfree
  | succ number =>
    exact ⟨number, freeName_eq_attempt hfree htaken, hfree, fun smaller hsmaller =>
      htaken (smaller + 1) (Nat.succ_lt_succ hsmaller)⟩

/-- The names given to the first names do not depend on those that come after them. -/
theorem take_freeNames (taken names : List String) (count : ℕ) :
    freeNames taken (names.take count) = (freeNames taken names).take count := by
  induction names generalizing taken count with
  | nil => simp [freeNames]
  | cons base others ih =>
    cases count with
    | zero => rfl
    | succ count => simp [freeNames, ih]

/-- The name given to a crate name beside the names given before: the crate name itself, or with the
least number that makes it free. -/
structure IsGiven (given : List String) (base result : String) : Prop where
  kept : base ∉ given → result = base
  least : base ∈ given → ∃ number, result = numbered base number ∧
    numbered base number ∉ given ∧ ∀ smaller < number, numbered base smaller ∈ given

theorem isGiven_freeName (given : List String) (base : String) :
    IsGiven given base (freeName given base) where
  kept := freeName_of_not_mem
  least := exists_least_numbered

/-- **The names of a list are made distinct one after the other, and each search for a number
ends.**  If no name comes apart inside a character, each gets its crate name, or with the least
number that makes it free if that is given already, and the search for it makes no more rounds than
there are names before it.  Names that are added at the end change none of these. -/
theorem distinctNames_search (names : List String)
    (h : ∀ name ∈ names, Text.snakeCase name ≠ none) :
    ∃ bases results, names.mapM crateName = .ok bases ∧ distinctNames names = .ok results ∧
      results.length = names.length ∧ results.Nodup ∧
      (∀ (i : ℕ) (base : String), bases[i]? = some base → ∃ result, results[i]? = some result ∧
        (∃ number ≤ i, Search.Ends (results.take i) base number result) ∧
          IsGiven (results.take i) base result) ∧
      ∀ count, distinctNames (names.take count) = .ok (results.take count) := by
  obtain ⟨bases, hbases⟩ := exists_mapM_crateName h
  have hresults : distinctNames names = .ok (freeNames [] bases) := by
    rw [distinctNames, hbases]
    rfl
  refine ⟨bases, freeNames [] bases, hbases, hresults, length_distinctNames hresults,
    nodup_freeNames [] bases, fun i base hbase => ?_, fun count => ?_⟩
  · have hresult := getElem?_freeNames [] bases i
    rw [hbase, List.nil_append, Option.map_some] at hresult
    obtain ⟨number, hnumber, hends⟩ := Search.ends_freeName ((freeNames [] bases).take i) base
    exact ⟨_, hresult, ⟨number, hnumber.trans (List.length_take_le _ _), hends⟩,
      isGiven_freeName _ base⟩
  · have hprefix : (names.take count).mapM crateName = .ok (bases.take count) :=
      mapM_eq_ok_iff.2 (List.forall₂_take count (mapM_eq_ok_iff.1 hbases))
    rw [distinctNames, hprefix, ← take_freeNames]
    rfl

/-- A name that is the first number of a later one. -/
def numberedNames : List String := ["put0", "put", "put"]

theorem distinctNames_search_numbered :
    (∀ name ∈ numberedNames, Text.snakeCase name ≠ none) ∧
      distinctNames numberedNames = .ok ["put_0", "put", "put_1"] ∧
      distinctNames (numberedNames.take 2) = .ok ["put_0", "put"] ∧
      (∃ number ≤ 2, Search.Ends ["put_0", "put"] "put" number "put_1") ∧
      Search.run ["put_0", "put"] "put" 2 = ⟨"put_1", 2⟩ := by
  have hsnake : ∀ name ∈ numberedNames, Text.snakeCase name ≠ none := by decide +kernel
  have hcrate : numberedNames.mapM crateName = .ok ["put_0", "put", "put"] :=
    toOption_eq_some_iff.1 (by decide +kernel)
  have hdistinct : distinctNames numberedNames = .ok ["put_0", "put", "put_1"] := by
    rw [distinctNames, hcrate]
    exact toOption_eq_some_iff.1 (by decide +kernel)
  obtain ⟨bases, results, hbases, hresults, -, -, hgiven, hprefix⟩ :=
    distinctNames_search numberedNames hsnake
  obtain rfl := Except.ok.inj (hbases.symm.trans hcrate)
  obtain rfl := Except.ok.inj (hresults.symm.trans hdistinct)
  obtain ⟨result, hresult, hends, -⟩ := hgiven 2 "put" rfl
  obtain rfl := Option.some.inj hresult
  exact ⟨hsnake, hdistinct, hprefix 2, hends, by decide +kernel⟩

end Forwarding
