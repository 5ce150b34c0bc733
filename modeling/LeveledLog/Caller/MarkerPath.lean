/-!
# Marker paths

A log statement knows where it stands through the path of a marker declared beside it: the names of the
enclosing modules, types and functions, with a separator between them, and then the marker's own name.  A
closure adds a piece that is not a name.  The innermost function is found by taking the marker off, then all
separators and closure pieces at the end, and keeping what follows the last separator that is left.

* `length_lt_of_endPiece?`: taking a piece off makes a path shorter, so that this comes to an end;
* `enclosing_of_endPiece?_eq_some`, `enclosing_of_endPiece?_eq_none`: one piece goes after the other;
* `beforeSeparator_eq_self`: a list without a separator is its own first part.
-/

namespace LeveledLog.MarkerPath

/-! ### Pieces of a path -/

/-- The name of the marker that a log statement declares. -/
def marker : List Char :=
  "__sylog_marker".toList

/-- What stands between two names of a path. -/
def separator : List Char :=
  [':', ':']

/-- What a closure adds to a path in the place of a name. -/
def closure : List Char :=
  "\x7b\x7bclosure\x7d\x7d".toList

/-- A path without the marker at its end. -/
def withoutMarker (path : List Char) : List Char :=
  (marker.isSuffixOf? path).getD path

/-! ### The enclosing function -/

/-- What is left of a path when the separator or the closure piece at its end is taken off. -/
def endPiece? (path : List Char) : Option (List Char) :=
  (separator.isSuffixOf? path).or (closure.isSuffixOf? path)

theorem length_of_isPrefixOf? {front cs rest : List Char} (h : front.isPrefixOf? cs = some rest) :
    rest.length + front.length = cs.length := by
  induction front generalizing cs with
  | nil =>
    have hall : cs = rest := Option.some.inj h
    rw [hall]
    rfl
  | cons c front ih =>
    cases cs with
    | nil => nomatch h
    | cons d cs =>
      have hstep : (if (c == d) = true then front.isPrefixOf? cs else none) = some rest := h
      split at hstep
      · rw [List.length_cons, List.length_cons, ← Nat.add_assoc, ih hstep]
      · nomatch hstep

/-- What is left when an ending is taken off is shorter by the ending. -/
theorem length_of_isSuffixOf? {ending cs rest : List Char} (h : ending.isSuffixOf? cs = some rest) :
    rest.length + ending.length = cs.length := by
  obtain ⟨back, hback, hrest⟩ := Option.map_eq_some_iff.1 h
  have hlength : back.length + ending.reverse.length = cs.reverse.length :=
    length_of_isPrefixOf? hback
  rw [List.length_reverse, List.length_reverse] at hlength
  rw [← hrest, List.length_reverse, hlength]

theorem length_lt_of_endPiece? {path rest : List Char} (h : endPiece? path = some rest) :
    rest.length < path.length := by
  rcases Option.or_eq_some_iff.1 h with hseparator | ⟨-, hclosure⟩
  · rw [← length_of_isSuffixOf? hseparator]
    exact Nat.lt_add_of_pos_right (by decide)
  · rw [← length_of_isSuffixOf? hclosure]
    exact Nat.lt_add_of_pos_right (by decide)

/-- A path without the separators and closure pieces at its end. -/
def enclosing (path : List Char) : List Char :=
  match _h : endPiece? path with
  | some rest => enclosing rest
  | none => path
termination_by path.length
decreasing_by exact length_lt_of_endPiece? _h

theorem enclosing_of_endPiece?_eq_some {path rest : List Char} (h : endPiece? path = some rest) :
    enclosing path = enclosing rest := by
  rw [enclosing]
  split
  · next other ho =>
    have hr : rest = other := Option.some.inj (h.symm.trans ho)
    rw [hr]
  · next hn => exact absurd (h.symm.trans hn) (Option.some_ne_none rest)

theorem enclosing_of_endPiece?_eq_none {path : List Char} (h : endPiece? path = none) :
    enclosing path = path := by
  rw [enclosing]
  split
  · next other ho => exact absurd (ho.symm.trans h) (Option.some_ne_none other)
  · rfl

/-! ### The last name -/

/-- The part of a list before its first separator, or all of it. -/
def beforeSeparator : List Char → List Char
  | ':' :: ':' :: _ => []
  | c :: cs => c :: beforeSeparator cs
  | [] => []

/-- The part of a path after its last separator, or all of it. -/
def afterLastSeparator (path : List Char) : List Char :=
  (beforeSeparator path.reverse).reverse

/-- The name of the function that a marker path leads to; empty if the path has no name. -/
def functionName (path : List Char) : List Char :=
  afterLastSeparator (enclosing (withoutMarker path))

/-- A list without a colon is its own first part. -/
theorem beforeSeparator_eq_self {cs : List Char} (h : ':' ∉ cs) : beforeSeparator cs = cs := by
  induction cs with
  | nil => rfl
  | cons c cs ih =>
    have hc : c ≠ ':' := fun e => h (e ▸ List.mem_cons_self)
    rw [beforeSeparator, ih fun hm => h (List.mem_cons_of_mem _ hm)]
    rintro rest rfl
    exact absurd rfl hc

end LeveledLog.MarkerPath
