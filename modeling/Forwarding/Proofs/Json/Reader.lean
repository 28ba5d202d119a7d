import Forwarding.Proofs.Json.Value
import Forwarding.Proofs.Json.Spelling
import Forwarding.Proofs.Pointwise

/-!
# Reading what is written in any order

* `ObjectOf`: the objects that hold given cells in any order, beside entries of unknown keys;
* `Reads`: a reader takes a value to a result wherever the value fits;
* `Shape.Gives`: cells from which a record is read;
* `reads_readRecord`, `exists_readKeyed`: a record is read from every object of its cells, and so
  are the own fields of one that holds another record, of which the cells are left;
* `readDocument_of_spells`: a text that spells a value is read as this value.
-/

namespace Forwarding.Json

/-- The objects that hold the cells given, in any order, and beside them only entries of keys that
are not known. -/
inductive ObjectOf (known : List String) (cells : List (String × Value)) : Value → Prop
  | entries {entries others : List (String × Value)} (hperm : entries.Perm (cells ++ others))
      (hothers : ∀ entry ∈ others, entry.1 ∉ known) :
      ObjectOf known cells (.ofEntries entries)

/-- A reader takes a value to a result at every place where the value fits. -/
def Reads {α : Type} (read : Reader α) (value : Value) (result : α) : Prop :=
  ∀ place, value.Fits place.depth → read place value = .ok result

theorem skip_of_fits {depth : Nat} {value : Value} (h : value.Fits depth) :
    value.skip = .ok () := by
  rw [Value.skip, check_of_fits h (.inr rfl)]
  rfl

theorem buffer_of_fits {place : Place} {value : Value} (h : value.Fits place.depth) :
    value.buffer place = .ok () := by
  rw [Value.buffer, check_of_fits h (.inl rfl)]
  rfl

theorem enter_of_lt {place : Place} (h : place.depth < depthLimit) :
    place.enter = .ok { place with depth := place.depth + 1 } := if_pos h

theorem reads_readString (text : String) : Reads readString (.string (some text)) text :=
  fun _ _ => rfl

theorem reads_readBool (flag : Bool) : Reads readBool (.bool flag) flag := fun _ _ => rfl

theorem reads_readList {α : Type} {read : Reader α} {results : List α} {values : List Value}
    (h : List.Forall₂ (fun result value => Reads read value result) results values) :
    Reads (readList read) (.array values none) results := by
  intro place hfits
  obtain ⟨hdepth, hvalues⟩ := fits_array_iff.1 hfits
  let inner : Place := { place with depth := place.depth + 1 }
  have hitems : values.mapM (read inner) = .ok results :=
    mapM_eq_ok_iff.2 (((List.forall₂_and_left _ _).2 ⟨hvalues, h.flip⟩).imp
      fun _ _ h => h.2 inner h.1)
  exact bind_eq_ok_iff.2 ⟨inner, enter_of_lt hdepth, bind_eq_ok_iff.2 ⟨results, hitems, rfl⟩⟩

namespace Shape

variable {κ : Type} [DecidableEq κ] {α : κ → Type}

/-- The keys of a record among those of entries. -/
def keysOf (shape : Shape κ) (entries : List (String × Value)) : List κ :=
  entries.filterMap fun entry => shape.key? entry.1

/-- Cells from which the fields of a record are read, one for each field that is there. -/
inductive Gives (shape : Shape κ) (read : (key : κ) → Reader (α key)) :
    List (String × Value) → Fields α → Prop
  | nil : Gives shape read [] fun _ => none
  | cons {text : String} {key : κ} {value : Value} {field : α key}
      {cells : List (String × Value)} {fields : Fields α} (hkey : shape.key? text = some key)
      (hread : Reads (read key) value field) (hnew : fields key = none)
      (h : Gives shape read cells fields) :
      Gives shape read ((text, value) :: cells) (set fields key field)

variable {shape : Shape κ} {read : (key : κ) → Reader (α key)}

omit [DecidableEq κ] in
theorem key?_eq_none {known : List String} (hknown : ∀ key ∈ shape.keys, shape.text key ∈ known)
    {text : String} (h : text ∉ known) : shape.key? text = none := by
  refine List.find?_eq_none.2 fun key hkey heq => h ?_
  rw [← of_decide_eq_true heq]
  exact hknown key hkey

omit [DecidableEq κ] in
theorem keysOf_cons_some {text : String} {key : κ} (h : shape.key? text = some key)
    (value : Value) (cells : List (String × Value)) :
    shape.keysOf ((text, value) :: cells) = key :: shape.keysOf cells :=
  List.filterMap_cons_some h

omit [DecidableEq κ] in
theorem keysOf_cons_none {text : String} (h : shape.key? text = none) (value : Value)
    (cells : List (String × Value)) :
    shape.keysOf ((text, value) :: cells) = shape.keysOf cells :=
  List.filterMap_cons_none h

theorem set_self (fields : Fields α) (key : κ) (field : α key) :
    set fields key field key = some field := by simp [set]

theorem set_of_ne (fields : Fields α) {key other : κ} (field : α key) (h : other ≠ key) :
    set fields key field other = fields other := by simp [set, h]

/-- The fields that are there are those of the cells. -/
theorem Gives.eq_none_iff {cells : List (String × Value)} {fields : Fields α}
    (h : shape.Gives read cells fields) {key : κ} :
    fields key = none ↔ key ∉ shape.keysOf cells := by
  induction h with
  | nil => exact iff_of_true rfl List.not_mem_nil
  | @cons text first value field cells fields hfirst hread hnew h ih =>
    rw [keysOf_cons_some hfirst, List.mem_cons, not_or]
    by_cases hkey : key = first
    · subst hkey
      simp [set_self]
    · rw [set_of_ne fields field hkey, ih]
      simp [hkey]

theorem Gives.nodup {cells : List (String × Value)} {fields : Fields α}
    (h : shape.Gives read cells fields) : (shape.keysOf cells).Nodup := by
  induction h with
  | nil => exact List.nodup_nil
  | cons hkey _ hnew h ih =>
    rw [keysOf_cons_some hkey]
    exact List.nodup_cons.2 ⟨h.eq_none_iff.1 hnew, ih⟩

theorem Gives.reads {cells : List (String × Value)} {fields : Fields α}
    (h : shape.Gives read cells fields) {cell : String × Value} (hcell : cell ∈ cells) :
    ∃ key field, shape.key? cell.1 = some key ∧ fields key = some field ∧
      Reads (read key) cell.2 field := by
  induction h with
  | nil => cases hcell
  | @cons text first value field cells fields hfirst hread hnew h ih =>
    rcases List.mem_cons.1 hcell with rfl | hcell
    · exact ⟨first, field, hfirst, set_self fields first field, hread⟩
    · obtain ⟨key, other, hkey, hfield, hother⟩ := ih hcell
      have hne : key ≠ first := by
        rintro rfl
        rw [hnew] at hfield
        cases hfield
      exact ⟨key, other, hkey, (set_of_ne fields field hne).trans hfield, hother⟩

/-- Entries whose fields are all read give these fields, if no key occurs twice; `fields` are
those that were read before. -/
theorem readEntries_eq_ok {take : (key : κ) → Value → Except ReadFault (α key)}
    {other : Value → Except ReadFault Unit} {result : Fields α}
    {entries : List (String × Value)} (hnodup : (shape.keysOf entries).Nodup)
    (hother : ∀ entry ∈ entries, other entry.2 = .ok ())
    (htake : ∀ entry ∈ entries, ∀ key, shape.key? entry.1 = some key →
      ∃ field, result key = some field ∧ take key entry.2 = .ok field)
    {fields : Fields α}
    (hfields : ∀ key, fields key = if key ∈ shape.keysOf entries then none else result key) :
    shape.readEntries take other fields (entries.map fun entry => (some entry.1, entry.2)) =
      .ok result := by
  induction entries generalizing fields with
  | nil =>
    exact congrArg Except.ok (funext fun key => (hfields key).trans (if_neg List.not_mem_nil))
  | cons entry entries ih =>
    obtain ⟨text, value⟩ := entry
    obtain ⟨hvalue, hother⟩ := List.forall_mem_cons.1 hother
    obtain ⟨hentry, htake⟩ := List.forall_mem_cons.1 htake
    rw [List.map_cons, readEntries]
    cases hkey : shape.key? text with
    | none =>
      rw [keysOf_cons_none hkey] at hnodup hfields
      exact bind_eq_ok_iff.2 ⟨(), hvalue, ih hnodup hother htake hfields⟩
    | some key =>
      obtain ⟨field, hresult, hfield⟩ := hentry key hkey
      rw [keysOf_cons_some hkey] at hnodup hfields
      obtain ⟨hnew, hnodup⟩ := List.nodup_cons.1 hnodup
      have hempty : ¬ (fields key).isSome = true := by
        rw [hfields key, if_pos List.mem_cons_self]
        exact Bool.false_ne_true
      refine (if_neg hempty).trans (bind_eq_ok_iff.2 ⟨field, hfield, ih hnodup hother htake ?_⟩)
      intro asked
      by_cases hsame : asked = key
      · subst hsame
        rw [set_self, if_neg hnew, hresult]
      · rw [set_of_ne fields field hsame, hfields]
        simp [hsame]

/-- The fields of a record are read from its cells in any order, whatever stands between them. -/
theorem Gives.readEntries_eq_ok {own rest entries : List (String × Value)} {fields : Fields α}
    (h : shape.Gives read own fields) (hperm : entries.Perm (own ++ rest))
    (hrest : ∀ entry ∈ rest, shape.key? entry.1 = none) {inner : Place}
    (hfits : ∀ entry ∈ entries, entry.2.Fits inner.depth) {other : Value → Except ReadFault Unit}
    (hother : ∀ value : Value, value.Fits inner.depth → other value = .ok ()) :
    shape.readEntries (read · inner) other (fun _ => none)
      (entries.map fun entry => (some entry.1, entry.2)) = .ok fields := by
  have hkeys : (shape.keysOf entries).Perm (shape.keysOf own) := by
    have := hperm.filterMap fun entry => shape.key? entry.1
    rwa [List.filterMap_append, List.filterMap_eq_nil_iff.2 hrest, List.append_nil] at this
  refine Shape.readEntries_eq_ok (hkeys.nodup_iff.2 h.nodup)
    (fun entry hentry => hother _ (hfits entry hentry)) ?_ ?_
  · intro entry hentry key hkey
    have hown : entry ∈ own := by
      refine (List.mem_append.1 (hperm.mem_iff.1 hentry)).resolve_right fun hmem => ?_
      rw [hrest entry hmem] at hkey
      cases hkey
    obtain ⟨first, field, hfirst, hfield, hread⟩ := h.reads hown
    obtain rfl := Option.some.inj (hfirst.symm.trans hkey)
    exact ⟨field, hfield, hread inner (hfits entry hentry)⟩
  · intro key
    by_cases hkey : key ∈ shape.keysOf entries
    · rw [if_pos hkey]
    · rw [if_neg hkey, h.eq_none_iff.2 fun hown => hkey (hkeys.mem_iff.2 hown)]

/-- A record is read from each of the objects of its cells. -/
theorem reads_readRecord {known : List String} {cells : List (String × Value)} {value : Value}
    {fields : Fields α} (h : shape.Gives read cells fields) (hvalue : ObjectOf known cells value)
    (hknown : ∀ key ∈ shape.keys, shape.text key ∈ known) :
    Reads (shape.readRecord read) value fields := by
  obtain ⟨hperm, hothers⟩ := hvalue
  intro place hfits
  obtain ⟨hdepth, hvalues⟩ := fits_ofEntries_iff.1 hfits
  let inner : Place := { place with depth := place.depth + 1 }
  have hskip (value : Value) (h : value.Fits inner.depth) := skip_of_fits h
  have hentries := h.readEntries_eq_ok hperm
    (fun entry hentry => key?_eq_none hknown (hothers entry hentry)) hvalues hskip
  exact bind_eq_ok_iff.2 ⟨inner, enter_of_lt hdepth, bind_eq_ok_iff.2 ⟨fields, hentries, rfl⟩⟩

/-- The own fields of a record that holds another one are read from each of the objects of the
cells of both, and an object of the cells of the other one is left. -/
theorem exists_readKeyed {known : List String} {own rest : List (String × Value)} {value : Value}
    {fields : Fields α} (h : shape.Gives read own fields)
    (hvalue : ObjectOf known (own ++ rest) value)
    (hknown : ∀ key ∈ shape.keys, shape.text key ∈ known)
    (hrest : ∀ cell ∈ rest, shape.key? cell.1 = none) :
    ∃ others, ObjectOf known rest others ∧ ∀ place : Place, value.Fits place.depth →
      shape.readKeyed read place value = .ok (fields, others) ∧ others.Fits place.depth := by
  obtain @⟨entries, unknown, hperm, hunknown⟩ := hvalue
  rw [List.append_assoc] at hperm
  have hnone : ∀ entry ∈ rest ++ unknown, shape.key? entry.1 = none := fun entry hentry =>
    (List.mem_append.1 hentry).elim (hrest entry)
      fun hentry => key?_eq_none hknown (hunknown entry hentry)
  let foreign (entry : String × Value) : Bool := (shape.key? entry.1).isNone
  have hown : own.filter foreign = [] := List.filter_eq_nil_iff.2 fun cell hcell => by
    obtain ⟨key, _, hkey, -⟩ := h.reads hcell
    simp [foreign, hkey]
  have hforeign : (rest ++ unknown).filter foreign = rest ++ unknown :=
    List.filter_eq_self.2 fun entry hentry => by simp [foreign, hnone entry hentry]
  have hleft : (entries.filter foreign).Perm (rest ++ unknown) := by
    have := hperm.filter foreign
    rwa [List.filter_append, hown, hforeign, List.nil_append] at this
  refine ⟨.ofEntries (entries.filter foreign), ⟨hleft, hunknown⟩, fun place hfits => ?_⟩
  obtain ⟨hdepth, hvalues⟩ := fits_ofEntries_iff.1 hfits
  let inner : Place := { place with depth := place.depth + 1 }
  have hbuffer (value : Value) (h : value.Fits inner.depth) := buffer_of_fits h
  have hentries := h.readEntries_eq_ok hperm hnone hvalues hbuffer
  have hothers : (entries.map fun entry => (some entry.1, entry.2)).filter
      (fun entry => (entry.1.bind shape.key?).isNone) =
        (entries.filter foreign).map fun entry => (some entry.1, entry.2) := List.filter_map ..
  refine ⟨bind_eq_ok_iff.2 ⟨inner, enter_of_lt hdepth, bind_eq_ok_iff.2 ⟨fields, hentries, ?_⟩⟩,
    fits_ofEntries_iff.2 ⟨hdepth, fun entry hentry => hvalues _ (List.mem_of_mem_filter hentry)⟩⟩
  rw [Value.ofEntries, ← hothers]
  rfl

end Shape

/-! ### Documents -/

/-- A text that spells a value is read as the value is. -/
theorem readDocument_of_spells {α : Type} {read : Reader α} {value : Value} {result : α}
    (hread : Reads read value result) (hfits : value.Fits 0) {text : String}
    (htext : Spells value.tokens text.toList) : readDocument read text = .ok result := by
  rw [readDocument, tokens_of_spells htext, document_tokens hfits]
  exact bind_eq_ok_iff.2 ⟨result, hread {} hfits, rfl⟩

end Forwarding.Json
