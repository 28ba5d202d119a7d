import Forwarding.Path
import Forwarding.Proofs.Text.Pieces
import Mathlib.Data.List.Basic
import Mathlib.Data.List.Infix

/-!
# Steps of paths

What the operations on paths do to the list of steps.  The spelling of a path is no function of its
steps, so all statements are about the steps alone.

* `Path.components_push_name`, `Path.components_pushAll`: plain names add one step each;
* `Path.components_of_parent?`, `Path.exists_parent?`: the parent has one step less;
* `Path.compare_eq_iff`: paths compare as equal exactly if they have the same steps;
* `Path.compareComponents_of_isPrefix`: a beginning of a list of steps comes before it.
-/

namespace Forwarding

/-- A text that stands for one named step: it is neither empty nor a dot or two dots, and has no
slash. -/
structure IsStepName (name : String) : Prop where
  ne_empty : name ≠ ""
  ne_dot : name ≠ "."
  ne_dots : name ≠ ".."
  no_slash : '/' ∉ name.toList

theorem Component.ofSegment?_name {name : String} (h : IsStepName name) :
    ofSegment? name = some (.named name) := by
  simp [ofSegment?, h.ne_empty, h.ne_dot, h.ne_dots]

theorem Component.ofSegment?_cases {segment : String} {step : Component}
    (h : ofSegment? segment = some step) : step = .parent ∨ step = .named segment := by
  unfold ofSegment? at h
  split_ifs at h
  · exact Or.inl (Option.some.inj h).symm
  · exact Or.inr (Option.some.inj h).symm

theorem Component.ofSegment?_ne_root (segment : String) : ofSegment? segment ≠ some .root := by
  unfold ofSegment?
  split_ifs <;> simp

namespace Path

/-- A text without a slash is a path of one segment. -/
theorem ofText_of_no_slash {text : String} (h : '/' ∉ text.toList) : ofText text = ⟨[text]⟩ := by
  have hpieces : Text.pieces (· == '/') text.toList = [text.toList] := by
    refine Text.pieces_of_not_mem fun c hc => beq_eq_false_iff_ne.2 ?_
    rintro rfl
    exact h hc
  simp [ofText, Text.stringPieces, hpieces]

/-! ### Beginning and body -/

/-- What the segments of a path can begin with. -/
theorem segments_cases (segments : List String) :
    segments = [] ∨ segments = [""] ∨ (∃ next rest, segments = "" :: next :: rest) ∨
      (∃ rest, segments = "." :: rest) ∨
      ∃ first rest, segments = first :: rest ∧ first ≠ "" ∧ first ≠ "." := by
  match segments with
  | [] => exact Or.inl rfl
  | [first] => by_cases hempty : first = "" <;> by_cases hdot : first = "." <;> simp_all
  | first :: next :: rest =>
    by_cases hempty : first = "" <;> by_cases hdot : first = "." <;> simp_all

theorem parts_absolute (next : String) (rest : List String) :
    parts ⟨"" :: next :: rest⟩ = ([""], next :: rest) := rfl

theorem parts_dot (rest : List String) : parts ⟨"." :: rest⟩ = (["."], rest) := by
  simp [parts]

theorem parts_plain {first : String} (rest : List String) (hempty : first ≠ "")
    (hdot : first ≠ ".") : parts ⟨first :: rest⟩ = ([], first :: rest) := by
  simp [parts, hempty, hdot]

/-- The steps that the beginning of a path stands for. -/
def headSteps (head : List String) : List Component :=
  head.map fun segment => if segment = "" then .root else .current

theorem components_of_parts {path : Path} {head body : List String}
    (h : path.parts = (head, body)) :
    path.components = headSteps head ++ body.filterMap Component.ofSegment? := by
  rw [components, h]
  rfl

theorem isAbsolute_eq_false {first : String} (rest : List String) (h : first ≠ "") :
    isAbsolute ⟨first :: rest⟩ = false := by
  unfold isAbsolute
  split
  · rename_i heq
    exact absurd (List.cons.inj heq).1 h
  · rfl

/-- The steps of a path are those of its segments, with the root or a dot before them if it begins
with one. -/
theorem components_cases (path : Path) :
    ∃ head, path.components = head ++ path.segments.filterMap Component.ofSegment? ∧
      (path.isAbsolute = true ∧ head = [.root] ∨
        path.isAbsolute = false ∧ (head = [] ∨ head = [.current])) := by
  obtain ⟨segments⟩ := path
  rcases segments_cases segments with rfl | rfl | ⟨next, rest, rfl⟩ | ⟨rest, rfl⟩ |
    ⟨first, rest, rfl, hempty, hdot⟩
  · exact ⟨[], rfl, Or.inr ⟨rfl, Or.inl rfl⟩⟩
  · exact ⟨[], rfl, Or.inr ⟨rfl, Or.inl rfl⟩⟩
  · exact ⟨[.root], rfl, Or.inl ⟨rfl, rfl⟩⟩
  · refine ⟨[.current], ?_, Or.inr ⟨isAbsolute_eq_false rest (by decide), Or.inr rfl⟩⟩
    rw [components_of_parts (parts_dot rest), List.filterMap_cons_none (by decide)]
    rfl
  · refine ⟨[], ?_, Or.inr ⟨isAbsolute_eq_false rest hempty, Or.inl rfl⟩⟩
    rw [components_of_parts (parts_plain rest hempty hdot)]
    rfl

/-- The root can only be the first step. -/
theorem root_not_mem_tail (path : Path) : .root ∉ path.components.tail := by
  have hbody : .root ∉ path.segments.filterMap Component.ofSegment? := fun hroot => by
    obtain ⟨segment, -, hsegment⟩ := List.mem_filterMap.1 hroot
    exact Component.ofSegment?_ne_root segment hsegment
  obtain ⟨head, hsteps, ⟨-, rfl⟩ | ⟨-, rfl | rfl⟩⟩ := path.components_cases
  · rwa [hsteps]
  · rw [hsteps]
    exact fun hroot => hbody (List.mem_of_mem_tail hroot)
  · rwa [hsteps]

/-- One more segment belongs to the body.  An empty last segment does not count, for two of them
are the root. -/
theorem parts_concat (front : List String) :
    ∃ head body, (front.getLast? ≠ some "" → parts ⟨front⟩ = (head, body)) ∧
      ∀ last, last ≠ "." → parts ⟨front ++ [last]⟩ = (head, body ++ [last]) := by
  rcases segments_cases front with rfl | rfl | ⟨next, rest, rfl⟩ | ⟨rest, rfl⟩ |
    ⟨first, rest, rfl, hempty, hdot⟩
  · exact ⟨[], [], fun _ => rfl, fun last hlast => by simp [parts, hlast]⟩
  · exact ⟨[""], [], fun h => absurd rfl h, fun last _ => rfl⟩
  · exact ⟨[""], next :: rest, fun _ => rfl, fun last _ => rfl⟩
  · exact ⟨["."], rest, fun _ => parts_dot rest, fun last _ => parts_dot (rest ++ [last])⟩
  · exact ⟨[], first :: rest, fun _ => parts_plain rest hempty hdot,
      fun last _ => parts_plain (rest ++ [last]) hempty hdot⟩

/-- A plain name adds one step. -/
theorem components_push_name (path : Path) {name : String} (h : IsStepName name) :
    (path.push (ofText name)).components = path.components ++ [.named name] := by
  rw [ofText_of_no_slash h.no_slash, push, isAbsolute_eq_false [] h.ne_empty,
    if_neg Bool.false_ne_true]
  split_ifs with hlast
  · -- an empty last segment gives its place to the name
    obtain ⟨front, hfront⟩ := List.getLast?_eq_some_iff.1 hlast
    obtain ⟨head, body, -, hconcat⟩ := parts_concat front
    have hpath : path.parts = (head, body ++ [""]) := by
      rw [← hconcat "" (by decide), ← hfront]
    rw [hfront, List.dropLast_concat, components_of_parts (hconcat name h.ne_dot),
      components_of_parts hpath, List.filterMap_append, List.filterMap_append,
      List.filterMap_cons_some (Component.ofSegment?_name h), ← List.append_assoc]
    simp [Component.ofSegment?]
  · obtain ⟨head, body, hfront, hconcat⟩ := parts_concat path.segments
    rw [components_of_parts (hconcat name h.ne_dot), components_of_parts (hfront hlast)]
    simp [Component.ofSegment?_name h]

/-- The path with names pushed to it one after another. -/
def pushAll (path : Path) (names : List String) : Path := (names.map ofText).foldl push path

theorem pushAll_concat (path : Path) (names : List String) (last : String) :
    path.pushAll (names ++ [last]) = (path.pushAll names).push (ofText last) := by
  rw [pushAll, List.map_append, List.foldl_append]
  rfl

/-- Plain names add one step each. -/
theorem components_pushAll (path : Path) {names : List String}
    (hnames : ∀ name ∈ names, IsStepName name) :
    (path.pushAll names).components = path.components ++ names.map .named := by
  induction names using List.reverseRecOn with
  | nil => simp [pushAll]
  | append_singleton names last ih =>
    rw [List.forall_mem_append, List.forall_mem_singleton] at hnames
    rw [pushAll_concat, components_push_name _ hnames.2, ih hnames.1, List.append_assoc,
      List.map_append]
    rfl

/-! ### Parents -/

/-- The segments that are trimmed away are no steps. -/
theorem filterMap_trimSegments (segments : List String) :
    (trimSegments segments).filterMap Component.ofSegment? =
      segments.filterMap Component.ofSegment? := by
  have hdropped : ∀ reversed : List String,
      (reversed.dropWhile fun segment => (Component.ofSegment? segment).isNone).filterMap
        Component.ofSegment? = reversed.filterMap Component.ofSegment? := by
    intro reversed
    induction reversed with
    | nil => rfl
    | cons segment rest ih =>
      cases hsegment : Component.ofSegment? segment with
      | none => simp [hsegment, ih]
      | some step => simp [hsegment]
  rw [trimSegments, List.filterMap_reverse, hdropped, ← List.filterMap_reverse,
    List.reverse_reverse]

theorem trimSegments_isPrefix (segments : List String) : trimSegments segments <+: segments := by
  rw [← List.reverse_suffix, trimSegments, List.reverse_reverse]
  exact List.dropWhile_suffix _

/-- The last segment that is left is a step. -/
theorem ofSegment?_of_trimSegments {segments front : List String} {last : String}
    (h : trimSegments segments = front ++ [last]) :
    ∃ step, Component.ofSegment? last = some step := by
  rw [trimSegments, ← List.reverse_inj, List.reverse_reverse, List.reverse_concat] at h
  have hlast := List.head?_dropWhile_not
    (fun segment => (Component.ofSegment? segment).isNone) segments.reverse
  rw [h] at hlast
  simpa [Option.isSome_iff_exists, ← Option.isSome_iff_ne_none] using hlast

/-- A path with the beginning of another one and part of its body has the steps of these. -/
theorem components_ofParts {path : Path} {head body front : List String}
    (h : path.parts = (head, body)) (hfront : front <+: body) :
    (ofParts head front).components = headSteps head ++ front.filterMap Component.ofSegment? := by
  obtain ⟨segments⟩ := path
  rcases segments_cases segments with rfl | rfl | ⟨next, rest, rfl⟩ | ⟨rest, rfl⟩ |
    ⟨first, rest, rfl, hempty, hdot⟩
  · obtain ⟨rfl, rfl⟩ := Prod.mk.inj h
    rw [List.prefix_nil] at hfront
    rw [hfront]
    rfl
  · obtain ⟨rfl, rfl⟩ := Prod.mk.inj h
    rcases List.prefix_cons_iff.1 hfront with rfl | ⟨rest, rfl, hrest⟩
    · rfl
    · rw [List.prefix_nil.1 hrest]
      rfl
  · obtain ⟨rfl, rfl⟩ := Prod.mk.inj h
    rcases List.prefix_cons_iff.1 hfront with rfl | ⟨others, rfl, -⟩
    · rfl
    · exact components_of_parts (parts_absolute next others)
  · rw [parts_dot] at h
    obtain ⟨rfl, rfl⟩ := Prod.mk.inj h
    have hparts : ofParts ["."] front = ⟨"." :: front⟩ := by
      cases front <;> simp [ofParts]
    rw [hparts]
    exact components_of_parts (parts_dot front)
  · rw [parts_plain rest hempty hdot] at h
    obtain ⟨rfl, rfl⟩ := Prod.mk.inj h
    rcases List.prefix_cons_iff.1 hfront with rfl | ⟨others, rfl, -⟩
    · rfl
    · exact components_of_parts (parts_plain others hempty hdot)

theorem head_cases {path : Path} {head body : List String} (h : path.parts = (head, body)) :
    head = [] ∨ head = [""] ∨ head = ["."] := by
  unfold parts at h
  split at h <;> simp_all

/-- Either a path is at its end, or its parent has one step less. -/
theorem parent?_cases (path : Path) :
    path.parent? = none ∧ (path.components = [] ∨ path.components = [.root]) ∨
      ∃ parent last, path.parent? = some parent ∧ path.components = parent.components ++ [last] ∧
        last ≠ .root := by
  obtain ⟨head, body, hparts⟩ : ∃ head body, path.parts = (head, body) := ⟨_, _, rfl⟩
  have hcomponents := components_of_parts hparts
  rw [← filterMap_trimSegments] at hcomponents
  rcases List.eq_nil_or_concat' (trimSegments body) with hnil | ⟨front, last, hconcat⟩
  · rw [hnil, List.filterMap_nil, List.append_nil] at hcomponents
    have hparent : path.parent? = if head = ["."] then some ⟨[""]⟩ else none := by
      simp only [parent?, hparts, hnil]
    rcases head_cases hparts with rfl | rfl | rfl
    · exact Or.inl ⟨hparent, Or.inl hcomponents⟩
    · exact Or.inl ⟨hparent, Or.inr hcomponents⟩
    · exact Or.inr ⟨⟨[""]⟩, .current, hparent, hcomponents, by simp⟩
  · obtain ⟨step, hstep⟩ := ofSegment?_of_trimSegments hconcat
    rw [hconcat, List.filterMap_append, List.filterMap_cons_some hstep, List.filterMap_nil,
      ← List.append_assoc] at hcomponents
    have hfront : trimSegments front <+: body :=
      (trimSegments_isPrefix front).trans
        ((hconcat ▸ List.prefix_append front [last]).trans (trimSegments_isPrefix body))
    refine Or.inr ⟨ofParts head (trimSegments front), step, ?_, ?_, ?_⟩
    · simp only [parent?, hparts, hconcat]
      split
      · rename_i heq
        simp at heq
      · rw [List.dropLast_concat]
    · rw [hcomponents, components_ofParts hparts hfront, filterMap_trimSegments]
    · rintro rfl
      exact Component.ofSegment?_ne_root last hstep

theorem components_of_parent? {path parent : Path} (h : path.parent? = some parent) :
    ∃ last, path.components = parent.components ++ [last] := by
  rcases parent?_cases path with ⟨hnone, -⟩ | ⟨other, last, hsome, hcomponents, -⟩
  · rw [hnone] at h
    cases h
  · obtain rfl := Option.some.inj (hsome.symm.trans h)
    exact ⟨last, hcomponents⟩

/-- A path that ends in a step other than the root has a parent. -/
theorem exists_parent? {path : Path} {steps : List Component} {last : Component}
    (h : path.components = steps ++ [last]) (hlast : last ≠ .root) :
    ∃ parent, path.parent? = some parent ∧ parent.components = steps := by
  rcases parent?_cases path with ⟨-, hnil | hroot⟩ | ⟨parent, other, hsome, hcomponents, -⟩
  · rw [hnil] at h
    simp at h
  · rw [hroot] at h
    obtain ⟨-, rfl⟩ := List.append_singleton_inj.1 (show [] ++ [_] = steps ++ [last] from h)
    exact absurd rfl hlast
  · rw [hcomponents] at h
    exact ⟨parent, hsome, (List.append_singleton_inj.1 h).1⟩

/-! ### Comparison -/

end Path

namespace Component

theorem compare_eq_iff {a b : Component} : a.compare b = .eq ↔ a = b := by
  cases a <;> cases b <;> simp [compare, Std.LawfulEqCmp.compare_eq_iff_eq]

/-- The place of the kind of a step among the kinds. -/
def rank : Component → Nat
  | .root => 0
  | .current => 1
  | .parent => 2
  | .named _ => 3

/-- The name of a step, which is empty for a step without one. -/
def label : Component → String
  | .named name => name
  | _ => ""

theorem compare_eq_compareLex :
    Component.compare = compareLex (compareOn rank) (compareOn label) := by
  funext a b
  cases a <;> cases b <;> rfl

instance : Std.TransCmp Component.compare := compare_eq_compareLex ▸ inferInstance

end Component

namespace Path

theorem compareComponents_eq_compareLex :
    compareComponents = List.compareLex Component.compare := by
  funext as bs
  induction as generalizing bs with
  | nil => cases bs <;> rfl
  | cons a as ih =>
    cases bs with
    | nil => rfl
    | cons b bs => rw [compareComponents, List.compareLex_cons_cons, ih]

theorem compareComponents_eq_iff {as bs : List Component} :
    compareComponents as bs = .eq ↔ as = bs := by
  induction as generalizing bs with
  | nil => cases bs <;> simp [compareComponents]
  | cons a as ih =>
    cases bs with
    | nil => simp [compareComponents]
    | cons b bs =>
      rw [compareComponents, Ordering.then_eq_eq, Component.compare_eq_iff, ih, List.cons.injEq]

instance : Std.TransCmp compareComponents := compareComponents_eq_compareLex ▸ inferInstance

instance : Std.LawfulEqCmp compareComponents where
  eq_of_compare := compareComponents_eq_iff.1

/-- A beginning of a list of steps comes before it. -/
theorem compareComponents_of_isPrefix {as bs : List Component} (h : as <+: bs) (hne : as ≠ bs) :
    compareComponents as bs = .lt := by
  induction as generalizing bs with
  | nil =>
    cases bs with
    | nil => exact absurd rfl hne
    | cons b bs => rfl
  | cons a as ih =>
    obtain ⟨rest, rfl⟩ := h
    have hrest : as ≠ as ++ rest := fun hsame => hne (congrArg (a :: ·) hsame)
    rw [List.cons_append, compareComponents, Component.compare_eq_iff.2 rfl,
      ih (List.prefix_append as rest) hrest]
    rfl

/-- Paths compare as equal exactly if they have the same steps. -/
theorem compare_eq_iff {a b : Path} : a.compare b = .eq ↔ a.components = b.components :=
  compareComponents_eq_iff

instance : Std.TransCmp Path.compare where
  eq_swap {a b} :=
    have h : compareComponents a.components b.components =
      (compareComponents b.components a.components).swap := Std.OrientedCmp.eq_swap
    h
  isLE_trans {a b c} hab hbc :=
    have h : (compareComponents a.components c.components).isLE = true :=
      Std.TransCmp.isLE_trans (b := b.components) hab hbc
    h

end Path

end Forwarding
