import Forwarding.Json.Reader

/-!
# Values and their tokens

* `Value.Fits`: the values that a reader goes through without a fault;
* `Value.tokens`: the tokens of a value;
* `check_of_fits`: who reads or skips a value that fits meets no fault;
* `document_tokens`: the tokens of a value give this value, for any stack that they begin on.
-/

namespace Forwarding.Json

/-- A value that can be read inside so many containers: it is whole, with a text in each of its
strings and a value of each of its numbers, and at no place more containers are open than a reader
has at once. -/
inductive Value.Fits : Nat → Value → Prop
  | null {depth : Nat} : Fits depth .null
  | bool {depth : Nat} {value : Bool} : Fits depth (.bool value)
  | number {depth : Nat} {number : Number} (h : number.value?.isSome = true) :
      Fits depth (.number number)
  | string {depth : Nat} {text : String} : Fits depth (.string (some text))
  | array {depth : Nat} {items : List Value} (hdepth : depth < depthLimit)
      (hitems : ∀ item ∈ items, Fits (depth + 1) item) : Fits depth (.array items none)
  | object {depth : Nat} {entries : List (Option String × Value)} (hdepth : depth < depthLimit)
      (hkeys : ∀ entry ∈ entries, entry.1.isSome = true)
      (hvalues : ∀ entry ∈ entries, Fits (depth + 1) entry.2) : Fits depth (.object entries none)

attribute [simp] Value.Fits.null Value.Fits.bool Value.Fits.string

@[simp]
theorem fits_array_iff {depth : Nat} {items : List Value} :
    (Value.array items none).Fits depth ↔
      depth < depthLimit ∧ ∀ item ∈ items, item.Fits (depth + 1) := by
  constructor
  · intro h
    cases h with
    | array hdepth hitems => exact ⟨hdepth, hitems⟩
  · exact fun h => .array h.1 h.2

/-- The closed object of entries whose keys have a text. -/
def Value.ofEntries (entries : List (String × Value)) : Value :=
  .object (entries.map fun entry => (some entry.1, entry.2)) none

@[simp]
theorem fits_ofEntries_iff {depth : Nat} {entries : List (String × Value)} :
    (Value.ofEntries entries).Fits depth ↔
      depth < depthLimit ∧ ∀ entry ∈ entries, entry.2.Fits (depth + 1) := by
  constructor
  · intro h
    cases h with
    | object hdepth _ hvalues =>
      exact ⟨hdepth, fun entry hentry => hvalues _ (List.mem_map_of_mem hentry)⟩
  · rintro ⟨hdepth, hvalues⟩
    refine .object hdepth ?_ ?_
    · exact List.forall_mem_map.2 fun _ _ => rfl
    · exact List.forall_mem_map.2 hvalues

mutual

/-- The tokens of a value. -/
def Value.tokens : Value → List Token
  | .null => [.null]
  | .bool value => [.bool value]
  | .number number => [.number number]
  | .string text => [.string text]
  | .array items _ => .openArray :: itemTokens items ++ [.closeArray]
  | .object entries _ => .openObject :: entryTokens entries ++ [.closeObject]
  | .broken fault => [.broken fault]

/-- The tokens of items, with commas between them. -/
def itemTokens : List Value → List Token
  | [] => []
  | [value] => value.tokens
  | value :: next :: rest => value.tokens ++ .comma :: itemTokens (next :: rest)

/-- The tokens of entries, with commas between them. -/
def entryTokens : List (Option String × Value) → List Token
  | [] => []
  | [(key, value)] => .string key :: .colon :: value.tokens
  | (key, value) :: next :: rest =>
      .string key :: .colon :: value.tokens ++ .comma :: entryTokens (next :: rest)

end

/-! ### Going through a value -/

theorem checkItems_eq_ok {care : Care} {items : List Value}
    (h : ∀ item ∈ items, item.check care = .ok ()) : checkItems care items = .ok () := by
  induction items with
  | nil => rfl
  | cons item items ih =>
    obtain ⟨hitem, hitems⟩ := List.forall_mem_cons.1 h
    rw [checkItems, hitem]
    exact ih hitems

theorem checkEntries_eq_ok {care : Care} {entries : List (Option String × Value)}
    (hkeys : ∀ entry ∈ entries, entry.1.isSome = true)
    (hvalues : ∀ entry ∈ entries, entry.2.check care = .ok ()) :
    checkEntries care entries = .ok () := by
  induction entries with
  | nil => rfl
  | cons entry entries ih =>
    obtain ⟨hkey, hkeys⟩ := List.forall_mem_cons.1 hkeys
    obtain ⟨hvalue, hvalues⟩ := List.forall_mem_cons.1 hvalues
    have hstring : care.string entry.1 = .ok () := by
      rw [Care.string, if_neg]
      simp [Option.isSome_iff_ne_none.1 hkey]
    rw [checkEntries, hstring, hvalue]
    exact ih hkeys hvalues

theorem exists_enter {depth : Nat} (hdepth : depth < depthLimit) {care : Care}
    (hcare : care = .reading depth ∨ care = .skipping) :
    ∃ inner, care.enter = .ok inner ∧ (inner = .reading (depth + 1) ∨ inner = .skipping) := by
  rcases hcare with rfl | rfl
  · exact ⟨_, if_pos hdepth, .inl rfl⟩
  · exact ⟨_, rfl, .inr rfl⟩

/-- Nobody who reads a value that fits, or skips it, meets a fault. -/
theorem check_of_fits {depth : Nat} {value : Value} (h : value.Fits depth) {care : Care}
    (hcare : care = .reading depth ∨ care = .skipping) : value.check care = .ok () := by
  induction h generalizing care with
  | null => rfl
  | bool => rfl
  | number h =>
    rw [Value.check, Care.number, if_neg]
    simp [Option.isSome_iff_ne_none.1 h]
  | string => rfl
  | @array depth _ hdepth _ ih =>
    obtain ⟨inner, henter, hinner⟩ := exists_enter hdepth hcare
    rw [Value.check, henter]
    exact congrArg (· >>= _) (checkItems_eq_ok fun item hitem => ih item hitem hinner)
  | @object depth _ hdepth hkeys _ ih =>
    obtain ⟨inner, henter, hinner⟩ := exists_enter hdepth hcare
    rw [Value.check, henter]
    exact congrArg (· >>= _)
      (checkEntries_eq_ok hkeys fun entry hentry => ih entry hentry hinner)

/-! ### From tokens to a value -/

/-- The document that goes on once a value inside the open containers is complete. -/
def documentAfter (value : Value) : List Frame → List Token → Value × List Token
  | [], rest => (value, rest)
  | .array items :: frames, rest =>
      documentFrom (.array (value :: items) :: frames) .commaOrEnd rest
  | .object entries key :: frames, rest =>
      documentFrom (.object ((key, value) :: entries) none :: frames) .commaOrEnd rest

theorem documentFrom_complete {frames inner : List Frame} {token : Token} {awaiting : Awaiting}
    {value : Value} (h : step inner token awaiting = complete value frames) (rest : List Token) :
    documentFrom inner awaiting (token :: rest) = documentAfter value frames rest := by
  rw [documentFrom, h]
  cases frames with
  | nil => rfl
  | cons frame frames => cases frame <;> rfl

theorem documentFrom_more {frames next : List Frame} {token : Token}
    {awaiting following : Awaiting} (h : step frames token awaiting = .more next following)
    (rest : List Token) :
    documentFrom frames awaiting (token :: rest) = documentFrom next following rest := by
  rw [documentFrom, h]

/-- Tokens that lead to their value on any stack. -/
def Value.Builds (value : Value) : Prop :=
  ∀ frames rest, documentFrom frames .value (value.tokens ++ rest) =
    documentAfter value frames rest

theorem documentFrom_items {items : List Value} (hne : items ≠ [])
    (h : ∀ item ∈ items, item.Builds) (before : List Value) (frames : List Frame)
    (rest : List Token) :
    documentFrom (.array before :: frames) .value (itemTokens items ++ .closeArray :: rest) =
      documentAfter (.array (before.reverse ++ items) none) frames rest := by
  induction items generalizing before with
  | nil => exact absurd rfl hne
  | cons item items ih =>
    obtain ⟨hitem, hitems⟩ := List.forall_mem_cons.1 h
    cases items with
    | nil =>
      rw [itemTokens, hitem, documentAfter, documentFrom_complete (by rfl), List.reverse_cons]
    | cons next items =>
      rw [itemTokens, List.append_assoc, hitem, documentAfter, List.cons_append,
        documentFrom_more (by rfl), ih (List.cons_ne_nil _ _) hitems, List.reverse_cons,
        List.append_assoc, List.singleton_append]

theorem documentFrom_entries {entries : List (Option String × Value)} (hne : entries ≠ [])
    (h : ∀ entry ∈ entries, entry.2.Builds) (before : List (Option String × Value))
    (frames : List Frame) (rest : List Token) :
    documentFrom (.object before none :: frames) .key
        (entryTokens entries ++ .closeObject :: rest) =
      documentAfter (.object (before.reverse ++ entries) none) frames rest := by
  induction entries generalizing before with
  | nil => exact absurd rfl hne
  | cons entry entries ih =>
    obtain ⟨hentry, hentries⟩ := List.forall_mem_cons.1 h
    obtain ⟨key, value⟩ := entry
    cases entries with
    | nil =>
      rw [entryTokens, List.cons_append, documentFrom_more (by rfl), List.cons_append,
        documentFrom_more (by rfl), hentry, documentAfter, documentFrom_complete (by rfl),
        List.reverse_cons]
    | cons next entries =>
      rw [entryTokens, List.append_assoc, List.cons_append, documentFrom_more (by rfl),
        List.cons_append, documentFrom_more (by rfl), hentry, documentAfter, List.cons_append,
        documentFrom_more (by rfl), ih (List.cons_ne_nil _ _) hentries, List.reverse_cons,
        List.append_assoc, List.singleton_append]

theorem exists_itemTokens (item : Value) (items : List Value) :
    ∃ more, itemTokens (item :: items) = item.tokens ++ more := by
  cases items with
  | nil => exact ⟨[], (List.append_nil _).symm⟩
  | cons next rest => exact ⟨_, rfl⟩

/-- No value begins with the end of an array. -/
theorem documentFrom_itemOrEnd {depth : Nat} {value : Value} (h : value.Fits depth)
    (before : List Value) (frames : List Frame) (rest : List Token) :
    documentFrom (.array before :: frames) .itemOrEnd (value.tokens ++ rest) =
      documentFrom (.array before :: frames) .value (value.tokens ++ rest) := by
  cases h <;> simp [Value.tokens, documentFrom, step, valueStep, complete]

theorem builds_of_fits {depth : Nat} {value : Value} (h : value.Fits depth) : value.Builds := by
  induction h with
  | null | bool | number | string => exact fun frames rest => documentFrom_complete rfl rest
  | @array _ items _ hitems ih =>
    intro frames rest
    rw [Value.tokens, List.append_assoc, List.cons_append, documentFrom_more (by rfl),
      List.singleton_append]
    cases items with
    | nil => exact documentFrom_complete rfl rest
    | cons item items =>
      have hbody := documentFrom_items (List.cons_ne_nil item items) ih [] frames rest
      obtain ⟨more, hmore⟩ := exists_itemTokens item items
      rw [hmore, List.append_assoc] at hbody ⊢
      rw [documentFrom_itemOrEnd (hitems item List.mem_cons_self), hbody, List.reverse_nil,
        List.nil_append]
  | @object _ entries _ _ _ ih =>
    intro frames rest
    rw [Value.tokens, List.append_assoc, List.cons_append, documentFrom_more (by rfl),
      List.singleton_append]
    cases entries with
    | nil => exact documentFrom_complete rfl rest
    | cons entry entries =>
      have hkey : documentFrom (.object [] none :: frames) .keyOrEnd
            (entryTokens (entry :: entries) ++ .closeObject :: rest) =
          documentFrom (.object [] none :: frames) .key
            (entryTokens (entry :: entries) ++ .closeObject :: rest) := by
        cases entries <;> simp [entryTokens, documentFrom, step, keyStep]
      rw [hkey, documentFrom_entries (List.cons_ne_nil _ _) ih, List.reverse_nil, List.nil_append]

/-- The tokens of a value that fits give the value, and none are left over. -/
theorem document_tokens {depth : Nat} {value : Value} (h : value.Fits depth) :
    document value.tokens = (value, []) := by
  have := builds_of_fits h [] []
  rwa [List.append_nil] at this

end Forwarding.Json
