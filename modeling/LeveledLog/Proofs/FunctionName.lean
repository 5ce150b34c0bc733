import LeveledLog.Proofs.MarkerSites

/-!
# The function found on a path

Any text may be read as a marker path, with pieces at its end in any order and with runs of colons of any length.
Taking pieces off comes to an end, and what is then left is the path without the longest end that is made of pieces.
The name behind its last separator is the one that is found; a name that was found is its own path.

* `MarkerPath.exists_ofPieces`, `MarkerPath.endPiece?_enclosing`: what is taken off, and that nothing more could be;
* `MarkerPath.enclosing_eq_nil_iff`: all of a path comes off exactly if it is made of pieces;
* `MarkerPath.isUnseparated_afterLastSeparator`, `MarkerPath.exists_front`: the last name, and what is before it;
* `MarkerPath.IsLastName.functionName_eq_self`: a name that could be found is found on itself;
* `Caller.name_of_enclosing_function`: the caller on the path of a marker inside a function;
* `Caller.name_on_any_path`: the caller on any path.
-/

namespace LeveledLog

namespace MarkerPath

/-! ### Pieces at the end -/

/-- A piece that does not count at the end of a path. -/
inductive EndPiece
  | separator
  | closure
  deriving DecidableEq

/-- The text of a piece. -/
def EndPiece.text : EndPiece → List Char
  | .separator => "::".toList
  | .closure => "\x7b\x7bclosure\x7d\x7d".toList

/-- A path that is made of pieces, in any order, and of nothing else. -/
def OfPieces (path : List Char) : Prop :=
  ∃ pieces : List EndPiece, path = pieces.flatMap EndPiece.text

theorem ofPieces_nil : OfPieces [] :=
  ⟨[], rfl⟩

theorem OfPieces.append_text {path : List Char} (h : OfPieces path) (e : EndPiece) :
    OfPieces (path ++ e.text) := by
  obtain ⟨pieces, hpath⟩ := h
  refine ⟨pieces ++ [e], ?_⟩
  rw [List.flatMap_append, List.flatMap_singleton, hpath]

theorem exists_endPiece {path rest : List Char} (h : endPiece? path = some rest) :
    ∃ e : EndPiece, path = rest ++ e.text := by
  rcases endPiece?_eq_some_iff.1 h with hseparator | hclosure
  · exact ⟨.separator, hseparator⟩
  · exact ⟨.closure, hclosure⟩

theorem enclosing_append_text (path : List Char) (e : EndPiece) :
    enclosing (path ++ e.text) = enclosing path := by
  cases e with
  | separator => exact enclosing_append_separator path
  | closure => exact enclosing_append_closure path

theorem OfPieces.enclosing_append {ending : List Char} (h : OfPieces ending) (path : List Char) :
    enclosing (path ++ ending) = enclosing path := by
  obtain ⟨pieces, rfl⟩ := h
  induction pieces generalizing path with
  | nil => rw [List.flatMap_nil, List.append_nil]
  | cons e pieces ih => rw [List.flatMap_cons, ← List.append_assoc, ih, enclosing_append_text]

/-- Nothing more comes off the end of what is left. -/
theorem endPiece?_enclosing (path : List Char) : endPiece? (enclosing path) = none := by
  induction path using enclosing.induct with
  | case1 path rest h ih => rw [enclosing_of_endPiece?_eq_some h, ih]
  | case2 path h => rw [enclosing_of_endPiece?_eq_none h, h]

/-- What comes off the end of a path is made of pieces. -/
theorem exists_ofPieces (path : List Char) :
    ∃ ending, OfPieces ending ∧ path = enclosing path ++ ending := by
  induction path using enclosing.induct with
  | case1 path rest h ih =>
    obtain ⟨ending, hending, hrest⟩ := ih
    obtain ⟨e, hpath⟩ := exists_endPiece h
    refine ⟨ending ++ e.text, hending.append_text e, ?_⟩
    rw [enclosing_of_endPiece?_eq_some h, ← List.append_assoc, ← hrest, hpath]
  | case2 path h =>
    exact ⟨[], ofPieces_nil, by rw [enclosing_of_endPiece?_eq_none h, List.append_nil]⟩

theorem enclosing_eq_nil_iff {path : List Char} : enclosing path = [] ↔ OfPieces path := by
  constructor
  · intro h
    obtain ⟨ending, hending, hpath⟩ := exists_ofPieces path
    rw [h, List.nil_append] at hpath
    exact hpath ▸ hending
  · intro h
    have hnil : endPiece? [] = none := rfl
    have hall : enclosing ([] ++ path) = enclosing [] := h.enclosing_append []
    rw [List.nil_append] at hall
    rw [hall, enclosing_of_endPiece?_eq_none hnil]

/-! ### The last name -/

/-- A text without a separator inside. -/
def IsUnseparated (cs : List Char) : Prop :=
  ¬separator <:+: cs

theorem isUnseparated_nil : IsUnseparated [] := by
  intro h
  have hle : separator.length ≤ 0 := h.length_le
  exact absurd hle (by decide)

theorem isUnseparated_reverse_iff {cs : List Char} :
    IsUnseparated cs.reverse ↔ IsUnseparated cs := by
  have hreverse : separator.reverse <:+: cs.reverse ↔ separator <:+: cs := List.reverse_infix
  exact not_congr hreverse

/-- The part of a list before its first separator is all of it, or a separator follows. -/
theorem exists_beforeSeparator_append (cs : List Char) :
    ∃ rest, cs = beforeSeparator cs ++ rest ∧ (rest = [] ∨ separator <+: rest) := by
  induction cs using beforeSeparator.induct with
  | case1 cs => exact ⟨':' :: ':' :: cs, rfl, .inr ⟨cs, rfl⟩⟩
  | case2 c cs hfirst ih =>
    obtain ⟨rest, hrest, hend⟩ := ih
    refine ⟨rest, ?_, hend⟩
    rw [beforeSeparator, List.cons_append, ← hrest]
    exact hfirst
  | case3 => exact ⟨[], rfl, .inl rfl⟩

theorem isUnseparated_beforeSeparator (cs : List Char) : IsUnseparated (beforeSeparator cs) := by
  induction cs using beforeSeparator.induct with
  | case1 cs => exact isUnseparated_nil
  | case2 c cs hfirst ih =>
    rw [beforeSeparator]
    · intro h
      rcases List.infix_cons_iff.1 h with hhead | htail
      · -- a separator at the front would be the first one of the whole list
        obtain ⟨rest, hrest, -⟩ := exists_beforeSeparator_append cs
        obtain ⟨hc, more, hmore⟩ := List.cons_prefix_cons.1 hhead
        refine hfirst (more ++ rest) hc.symm ?_
        rw [hrest, ← hmore]
        rfl
      · exact ih htail
    · exact hfirst
  | case3 => exact isUnseparated_nil

theorem IsUnseparated.beforeSeparator_eq_self {cs : List Char} (h : IsUnseparated cs) :
    beforeSeparator cs = cs := by
  obtain ⟨rest, hrest, hend⟩ := exists_beforeSeparator_append cs
  rcases hend with hnil | hseparator
  · rw [hnil, List.append_nil] at hrest
    exact hrest.symm
  · have hinfix : separator <:+: cs :=
      hseparator.isInfix.trans ⟨beforeSeparator cs, [], by rw [List.append_nil, ← hrest]⟩
    exact absurd hinfix h

theorem isUnseparated_afterLastSeparator (path : List Char) :
    IsUnseparated (afterLastSeparator path) :=
  isUnseparated_reverse_iff.2 (isUnseparated_beforeSeparator path.reverse)

theorem IsUnseparated.afterLastSeparator_eq_self {path : List Char} (h : IsUnseparated path) :
    afterLastSeparator path = path := by
  rw [afterLastSeparator, (isUnseparated_reverse_iff.2 h).beforeSeparator_eq_self,
    List.reverse_reverse]

/-- The last name stands at the end of a path, and a separator is before it unless it is all of the path. -/
theorem exists_front (path : List Char) :
    ∃ front, path = front ++ afterLastSeparator path ∧ (front = [] ∨ separator <:+ front) := by
  obtain ⟨rest, hrest, hend⟩ := exists_beforeSeparator_append path.reverse
  refine ⟨rest.reverse, ?_, ?_⟩
  · rw [afterLastSeparator, ← List.reverse_append, ← hrest, List.reverse_reverse]
  · rcases hend with hnil | hseparator
    · exact .inl (by rw [hnil, List.reverse_nil])
    · exact .inr (List.reverse_suffix.2 hseparator)

/-! ### The name that is found -/

/-- A text that may be found as the last name of a path. -/
structure IsLastName (name : List Char) : Prop where
  ne_nil : name ≠ []
  isUnseparated : IsUnseparated name
  not_closure : ¬closure <:+ name

/-- What is left of a path when its pieces are off ends in a name, unless nothing is left. -/
theorem isLastName_afterLastSeparator {path : List Char} (h : enclosing path ≠ []) :
    IsLastName (afterLastSeparator (enclosing path)) := by
  obtain ⟨front, hfront, hbefore⟩ := exists_front (enclosing path)
  have hdone : endPiece? (enclosing path) = none := endPiece?_enclosing path
  refine ⟨?_, isUnseparated_afterLastSeparator (enclosing path), ?_⟩
  · intro hnil
    rw [hnil, List.append_nil] at hfront
    rcases hbefore with hempty | ⟨rest, hrest⟩
    · exact h (hfront.trans hempty)
    · rw [hfront, ← hrest, endPiece?_append_separator] at hdone
      exact Option.some_ne_none rest hdone
  · intro hclosure
    obtain ⟨rest, hrest⟩ := hclosure
    rw [hfront, ← hrest, ← List.append_assoc, endPiece?_append_closure] at hdone
    exact Option.some_ne_none (front ++ rest) hdone

theorem functionName_eq_nil_iff {path : List Char} :
    functionName path = [] ↔ OfPieces (withoutMarker path) := by
  rw [← enclosing_eq_nil_iff]
  constructor
  · intro h
    exact Decidable.byContradiction fun hne => (isLastName_afterLastSeparator hne).ne_nil h
  · intro h
    rw [functionName, h]
    rfl

theorem isLastName_functionName {path : List Char} (h : functionName path ≠ []) :
    IsLastName (functionName path) := by
  refine isLastName_afterLastSeparator fun hnil => h ?_
  exact functionName_eq_nil_iff.2 (enclosing_eq_nil_iff.1 hnil)

/-- The name that is found, between what is before it and the pieces behind it. -/
theorem exists_append_functionName (path : List Char) :
    ∃ front ending, withoutMarker path = front ++ functionName path ++ ending ∧
      (front = [] ∨ separator <:+ front) ∧ OfPieces ending := by
  obtain ⟨ending, hending, hpath⟩ := exists_ofPieces (withoutMarker path)
  obtain ⟨front, hfront, hbefore⟩ := exists_front (enclosing (withoutMarker path))
  refine ⟨front, ending, ?_, hbefore, hending⟩
  rw [functionName, ← hfront, ← hpath]

/-- The marker is taken off once if it is there, and else nothing is. -/
theorem withoutMarker_cases (path : List Char) :
    path = withoutMarker path ++ marker ∨ path = withoutMarker path ∧ ¬marker <:+ path := by
  cases h : marker.isSuffixOf? path with
  | some rest =>
    have hpath : rest ++ marker = path := List.append_eq_of_isSuffixOf?_eq_some h
    refine .inl ?_
    rw [withoutMarker, h]
    exact hpath.symm
  | none =>
    have hmarker : ¬marker <:+ path := by
      intro hsuffix
      obtain ⟨rest, hrest⟩ := hsuffix
      have hsome : marker.isSuffixOf? path = some rest :=
        List.isSuffixOf?_eq_some_iff_append_eq.2 hrest
      exact Option.some_ne_none rest (hsome.symm.trans h)
    refine .inr ⟨?_, hmarker⟩
    rw [withoutMarker, h]
    rfl

theorem withoutMarker_isPrefix (path : List Char) : withoutMarker path <+: path := by
  rcases withoutMarker_cases path with hmarker | ⟨hself, -⟩
  · exact ⟨marker, hmarker.symm⟩
  · exact hself ▸ List.prefix_rfl

theorem withoutMarker_eq_self {path : List Char} (h : ¬marker <:+ path) :
    withoutMarker path = path := by
  rcases withoutMarker_cases path with hmarker | ⟨hself, -⟩
  · exact absurd ⟨withoutMarker path, hmarker.symm⟩ h
  · exact hself.symm

theorem functionName_isInfix (path : List Char) : functionName path <:+: path := by
  obtain ⟨front, ending, hpath, -, -⟩ := exists_append_functionName path
  have hinfix : functionName path <:+: withoutMarker path := ⟨front, ending, hpath.symm⟩
  exact hinfix.trans (withoutMarker_isPrefix path).isInfix

theorem IsLastName.endPiece?_eq_none {name : List Char} (h : IsLastName name) :
    endPiece? name = none := by
  refine Option.eq_none_iff_forall_ne_some.2 fun rest hrest => ?_
  rcases endPiece?_eq_some_iff.1 hrest with hseparator | hclosure
  · exact h.isUnseparated ⟨rest, [], by rw [List.append_nil, ← hseparator]⟩
  · exact h.not_closure ⟨rest, hclosure.symm⟩

/-- A name that could be found is found on itself, but for a marker at its end. -/
theorem IsLastName.functionName_eq_self {name : List Char} (h : IsLastName name)
    (hmarker : ¬marker <:+ name) : functionName name = name := by
  rw [functionName, withoutMarker_eq_self hmarker,
    enclosing_of_endPiece?_eq_none h.endPiece?_eq_none,
    h.isUnseparated.afterLastSeparator_eq_self]

end MarkerPath

/-! ### Callers -/

namespace Caller

open MarkerPath

theorem ofMarkerPath_of_ofPieces {path : String} (h : OfPieces (withoutMarker path.toList)) :
    ofMarkerPath path = unknown := by
  rw [ofMarkerPath, if_pos (functionName_eq_nil_iff.2 h)]

theorem toList_name_of_not_ofPieces {path : String} (h : ¬OfPieces (withoutMarker path.toList)) :
    (ofMarkerPath path).name.toList = functionName path.toList := by
  rw [ofMarkerPath_name, if_neg (mt functionName_eq_nil_iff.1 h)]

theorem isLastName_unknown : IsLastName unknown.name.toList := by
  refine ⟨by decide, fun h => ?_, by decide⟩
  have hmem : ':' ∈ unknown.name.toList := h.subset List.mem_cons_self
  exact absurd hmem (by decide)

/-- Whatever the path, the caller has a name that may be found. -/
theorem isLastName_name (path : String) : IsLastName (ofMarkerPath path).name.toList := by
  by_cases h : OfPieces (withoutMarker path.toList)
  · rw [ofMarkerPath_of_ofPieces h]
    exact isLastName_unknown
  · rw [toList_name_of_not_ofPieces h]
    exact isLastName_functionName (mt functionName_eq_nil_iff.1 h)

theorem ofMarkerPath_of_isLastName {name : String} (h : IsLastName name.toList)
    (hmarker : ¬marker <:+ name.toList) : ofMarkerPath name = ⟨name⟩ := by
  rw [ofMarkerPath, h.functionName_eq_self hmarker, if_neg h.ne_nil, String.ofList_toList]

/-- The caller on the path of a marker is the function that the marker was declared in: behind any text and a
separator or at the front of the path, and from however deep in closures.  A function's name has no colon and does
not end in the closure piece. -/
theorem name_of_enclosing_function (scope : Option String) (function : String) (depth : Nat)
    (hne : function ≠ "") (hcolon : ':' ∉ function.toList)
    (hclosure : ¬"\x7b\x7bclosure\x7d\x7d".toList <:+ function.toList) :
    let path := (scope.map (· ++ "::")).getD "" ++ function ++
      String.join (List.replicate depth "::\x7b\x7bclosure\x7d\x7d") ++ "::__sylog_marker"
    (ofMarkerPath path).name = function ∧ ofMarkerPath path = ⟨function⟩ ∧
      (ofMarkerPath path).display = function ++ "()" := by
  intro path
  have hname : IsName function.toList := ⟨mt String.toList_eq_nil_iff.1 hne, hcolon, hclosure⟩
  have hcaller : ofMarkerPath path = ⟨function⟩ :=
    ofMarkerPath_path ⟨scope, function, depth, hname⟩
  rw [hcaller]
  exact ⟨rfl, rfl, rfl⟩

/-- A method behind a path with separators of its own, two closures deep. -/
theorem name_of_enclosing_function_of_method :
    "größe" ≠ "" ∧ ':' ∉ "größe".toList ∧
      ¬"\x7b\x7bclosure\x7d\x7d".toList <:+ "größe".toList ∧
      (ofMarkerPath ("<app::Worker<u8> as app::Run>::größe" ++
        "::\x7b\x7bclosure\x7d\x7d::\x7b\x7bclosure\x7d\x7d::__sylog_marker")).display =
          "größe()" := by
  have hne : "größe" ≠ "" := by decide
  have hcolon : ':' ∉ "größe".toList := by decide
  have hclosure : ¬"\x7b\x7bclosure\x7d\x7d".toList <:+ "größe".toList := by decide
  exact ⟨hne, hcolon, hclosure,
    (name_of_enclosing_function (some "<app::Worker<u8> as app::Run>") "größe" 2 hne hcolon
      hclosure).2.2⟩

/-- Every path has a caller.  Taking pieces off its end stops where no piece is left at the end; what came off is
pieces and nothing else.  The caller's name is not empty, has no separator inside and no closure piece at its end, and
it is a part of the path or the mark of an unknown caller.  No name is found exactly on a path of pieces alone, but
for one marker at its end, and then the caller is unknown.  On any other path the name stands between a separator, or
the front of the path, and an end that is made of pieces.  On a caller's name as a path that caller is found again,
unless there is a marker at its end. -/
theorem name_on_any_path (path : String) :
    let q := withoutMarker path.toList
    let name := (ofMarkerPath path).name.toList
    (path.toList = q ++ "__sylog_marker".toList ∨
        path.toList = q ∧ ¬"__sylog_marker".toList <:+ path.toList) ∧
      (∃ ending, OfPieces ending ∧ q = enclosing q ++ ending ∧ endPiece? (enclosing q) = none) ∧
      (name ≠ [] ∧ ¬"::".toList <:+: name ∧ ¬"\x7b\x7bclosure\x7d\x7d".toList <:+ name ∧
        (name = "???".toList ∨ name <:+: path.toList)) ∧
      (functionName path.toList = [] ↔ OfPieces q) ∧
      (OfPieces q → ofMarkerPath path = unknown) ∧
      (¬OfPieces q → ∃ front ending, q = front ++ name ++ ending ∧
        (front = [] ∨ "::".toList <:+ front) ∧ OfPieces ending) ∧
      (¬"__sylog_marker".toList <:+ name →
        ofMarkerPath (ofMarkerPath path).name = ofMarkerPath path) := by
  intro q name
  have hlast : IsLastName name := isLastName_name path
  refine ⟨withoutMarker_cases path.toList, ?_,
    ⟨hlast.ne_nil, hlast.isUnseparated, hlast.not_closure, ?_⟩,
    functionName_eq_nil_iff, ofMarkerPath_of_ofPieces, ?_, ofMarkerPath_of_isLastName hlast⟩
  · obtain ⟨ending, hending, hq⟩ := exists_ofPieces q
    exact ⟨ending, hending, hq, endPiece?_enclosing q⟩
  · by_cases h : OfPieces q
    · left
      show (ofMarkerPath path).name.toList = "???".toList
      rw [ofMarkerPath_of_ofPieces h]
      rfl
    · right
      show (ofMarkerPath path).name.toList <:+: path.toList
      rw [toList_name_of_not_ofPieces h]
      exact functionName_isInfix path.toList
  · intro h
    obtain ⟨front, ending, hq, hfront, hending⟩ := exists_append_functionName path.toList
    refine ⟨front, ending, ?_, hfront, hending⟩
    show q = front ++ (ofMarkerPath path).name.toList ++ ending
    rw [toList_name_of_not_ofPieces h]
    exact hq

/-- Colons in odd runs: one of them stays with the name. -/
theorem name_on_any_path_of_odd_colons :
    let path := ":::run:::\x7b\x7bclosure\x7d\x7d\x7b\x7bclosure\x7d\x7d::__sylog_marker"
    ¬OfPieces (withoutMarker path.toList) ∧
      ¬"__sylog_marker".toList <:+ (ofMarkerPath path).name.toList ∧
      (∃ front ending, withoutMarker path.toList = front ++ "run:".toList ++ ending ∧
        (front = [] ∨ "::".toList <:+ front) ∧ OfPieces ending) ∧
      ofMarkerPath "run:" = ofMarkerPath path := by
  intro path
  have hname : (ofMarkerPath path).name = "run:" := by decide +kernel
  have hpieces : ¬OfPieces (withoutMarker path.toList) :=
    mt functionName_eq_nil_iff.2 (by decide +kernel)
  have hmarker : ¬"__sylog_marker".toList <:+ (ofMarkerPath path).name.toList := by
    rw [hname]
    decide
  obtain ⟨-, -, -, -, -, hpart, hagain⟩ := name_on_any_path path
  have hpart' := hpart hpieces
  have hagain' := hagain hmarker
  rw [hname] at hpart' hagain'
  exact ⟨hpieces, hmarker, hpart', hagain'⟩

end Caller

end LeveledLog
