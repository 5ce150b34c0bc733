import LeveledLog.Caller.Basic
import Mathlib.Data.List.Basic

/-!
# Sites of log statements

Where a log statement stands, and the path that its marker has there.  However deep in closures the statement is, and
whatever encloses the function around it, the path leads back to the name of that function.

* `MarkerPath.endPiece?_eq_some_iff`: what may come off the end of a path is a separator or a closure piece;
* `MarkerPath.enclosing_append_closures`: closures at the end of a path do not count;
* `MarkerPath.IsName.endPiece?_append`: nothing comes off the end of a path that ends in a name;
* `MarkerPath.IsName.afterLastSeparator_append`: the name is what stands behind the last separator;
* `Caller.ofMarkerPath_path`: the caller of a log statement is the function that it stands in.
-/

namespace LeveledLog

namespace MarkerPath

/-! ### Pieces at the end -/

theorem withoutMarker_append (path : List Char) : withoutMarker (path ++ marker) = path := by
  rw [withoutMarker, List.isSuffixOf?_eq_some_iff_append_eq.2 rfl, Option.getD_some]

theorem getLast?_append_separator (rest : List Char) :
    (rest ++ separator).getLast? = some ':' := by
  rw [List.getLast?_append]
  rfl

theorem getLast?_append_closure (rest : List Char) : (rest ++ closure).getLast? = some '}' := by
  rw [List.getLast?_append]
  rfl

theorem endPiece?_append_separator (rest : List Char) :
    endPiece? (rest ++ separator) = some rest := by
  rw [endPiece?, List.isSuffixOf?_eq_some_iff_append_eq.2 rfl, Option.some_or]

theorem endPiece?_append_closure (rest : List Char) : endPiece? (rest ++ closure) = some rest := by
  have hnone : separator.isSuffixOf? (rest ++ closure) = none := by
    refine Option.eq_none_iff_forall_ne_some.2 fun other h => ?_
    have hlast := congrArg List.getLast? (List.isSuffixOf?_eq_some_iff_append_eq.1 h)
    rw [getLast?_append_separator, getLast?_append_closure] at hlast
    exact absurd hlast (by decide)
  rw [endPiece?, hnone, Option.none_or, List.isSuffixOf?_eq_some_iff_append_eq]

theorem endPiece?_eq_some_iff {path rest : List Char} :
    endPiece? path = some rest ↔ path = rest ++ separator ∨ path = rest ++ closure := by
  constructor
  · intro h
    rcases Option.or_eq_some_iff.1 h with hseparator | ⟨-, hclosure⟩
    · exact .inl (List.append_eq_of_isSuffixOf?_eq_some hseparator).symm
    · exact .inr (List.append_eq_of_isSuffixOf?_eq_some hclosure).symm
  · rintro (rfl | rfl)
    · exact endPiece?_append_separator rest
    · exact endPiece?_append_closure rest

theorem enclosing_append_separator (path : List Char) :
    enclosing (path ++ separator) = enclosing path :=
  enclosing_of_endPiece?_eq_some (endPiece?_append_separator path)

theorem enclosing_append_closure (path : List Char) :
    enclosing (path ++ closure) = enclosing path :=
  enclosing_of_endPiece?_eq_some (endPiece?_append_closure path)

/-! ### Names and what stands before them -/

/-- The name of a function: it has no colon, and it is not told by a closure piece. -/
structure IsName (name : List Char) : Prop where
  ne_nil : name ≠ []
  colon_notMem : ':' ∉ name
  not_closure : ¬closure <:+ name

/-- The part of a path in front of a name: nothing, or what encloses the function and a separator. -/
def front : Option (List Char) → List Char
  | none => []
  | some scope => scope ++ separator

theorem getLast?_front {scope : Option (List Char)} {c : Char}
    (h : (front scope).getLast? = some c) : c = ':' := by
  cases scope with
  | none => exact absurd h.symm (Option.some_ne_none c)
  | some q =>
    have hlast : (front (some q)).getLast? = some ':' := getLast?_append_separator q
    exact Option.some.inj (h.symm.trans hlast)

/-- A closure piece has no colon, so at the end of a path it would not reach beyond the name. -/
theorem IsName.not_closure_append {name : List Char} (h : IsName name)
    (scope : Option (List Char)) : ¬closure <:+ front scope ++ name := by
  intro hclosure
  have hname : name <:+ front scope ++ name := List.suffix_append (front scope) name
  rcases List.suffix_or_suffix_of_suffix hclosure hname with hshort | ⟨part, hpart⟩
  · exact h.not_closure hshort
  · obtain ⟨rest, hrest⟩ := hclosure
    rw [← hpart, ← List.append_assoc] at hrest
    have hfront : rest ++ part = front scope := List.append_cancel_right hrest
    cases hlast : part.getLast? with
    | none =>
      rw [List.getLast?_eq_none_iff.1 hlast, List.nil_append] at hpart
      exact h.not_closure (hpart ▸ List.suffix_rfl)
    | some c =>
      have hend : (front scope).getLast? = some c := by
        rw [← hfront, List.getLast?_append, hlast, Option.some_or]
      have hc : c = ':' := getLast?_front hend
      have hmem : ':' ∈ closure := by
        rw [← hpart, ← hc]
        exact List.mem_append_left name (List.mem_of_getLast? hlast)
      exact absurd hmem (by decide)

theorem IsName.endPiece?_append {name : List Char} (h : IsName name)
    (scope : Option (List Char)) : endPiece? (front scope ++ name) = none := by
  refine Option.eq_none_iff_forall_ne_some.2 fun rest hrest => ?_
  rcases endPiece?_eq_some_iff.1 hrest with hseparator | hclosure
  · have hlast : (front scope ++ name).getLast? = some ':' := by
      rw [hseparator, getLast?_append_separator]
    obtain ⟨c, hc⟩ := Option.ne_none_iff_exists'.1 (mt List.getLast?_eq_none_iff.1 h.ne_nil)
    rw [List.getLast?_append, hc, Option.some_or] at hlast
    have hcolon : c = ':' := Option.some.inj hlast
    exact h.colon_notMem (hcolon ▸ List.mem_of_getLast? hc)
  · exact h.not_closure_append scope ⟨rest, hclosure.symm⟩

/-! ### Closures -/

/-- What closures add to the path of the function that they are in, so many levels deep. -/
def closures (depth : Nat) : List Char :=
  (List.replicate depth (separator ++ closure)).flatten

theorem enclosing_append_closures (path : List Char) (depth : Nat) :
    enclosing (path ++ closures depth) = enclosing path := by
  induction depth with
  | zero =>
    show enclosing (path ++ []) = enclosing path
    rw [List.append_nil]
  | succ depth ih =>
    have hsucc : path ++ closures (depth + 1) = path ++ closures depth ++ separator ++ closure := by
      simp only [closures, List.replicate_succ', List.flatten_concat, List.append_assoc]
    rw [hsucc, enclosing_append_closure, enclosing_append_separator, ih]

/-! ### The last name -/

theorem beforeSeparator_append {cs : List Char} (h : ':' ∉ cs) (rest : List Char) :
    beforeSeparator (cs ++ separator ++ rest) = cs := by
  induction cs with
  | nil => rfl
  | cons c cs ih =>
    have hc : c ≠ ':' := fun e => h (e ▸ List.mem_cons_self)
    show beforeSeparator (c :: (cs ++ separator ++ rest)) = c :: cs
    rw [beforeSeparator, ih fun hm => h (List.mem_cons_of_mem c hm)]
    intro other hother
    exact absurd hother hc

theorem IsName.afterLastSeparator_append {name : List Char} (h : IsName name)
    (scope : Option (List Char)) : afterLastSeparator (front scope ++ name) = name := by
  have hcolon : ':' ∉ name.reverse := fun hm => h.colon_notMem (List.mem_reverse.1 hm)
  have hbefore : beforeSeparator (front scope ++ name).reverse = name.reverse := by
    cases scope with
    | none => exact beforeSeparator_eq_self hcolon
    | some q =>
      have hreverse : (front (some q) ++ name).reverse = name.reverse ++ separator ++ q.reverse := by
        rw [List.reverse_append, front, List.reverse_append, List.append_assoc]
        rfl
      rw [hreverse, beforeSeparator_append hcolon]
  rw [afterLastSeparator, hbefore, List.reverse_reverse]

/-- The path of a marker in a function leads to the function, from however deep in closures. -/
theorem IsName.functionName_eq {name : List Char} (h : IsName name) (scope : Option (List Char))
    (depth : Nat) :
    functionName (front scope ++ name ++ closures depth ++ separator ++ marker) = name := by
  rw [functionName, withoutMarker_append, enclosing_append_separator, enclosing_append_closures,
    enclosing_of_endPiece?_eq_none (h.endPiece?_append scope), h.afterLastSeparator_append]

end MarkerPath

/-! ### Sites -/

/-- Where a log statement stands: in a function, so many closures deep.  What encloses the function has a path of its
own, if there is anything. -/
structure Site where
  scope : Option String
  function : String
  depth : Nat
  isName : MarkerPath.IsName function.toList

/-- The path of the marker that a log statement declares at a site. -/
def Site.path (s : Site) : String :=
  (s.scope.map (· ++ "::")).getD "" ++ s.function ++
    String.join (List.replicate s.depth "::\x7b\x7bclosure\x7d\x7d") ++ "::__sylog_marker"

theorem Site.toList_path (s : Site) :
    s.path.toList = MarkerPath.front (s.scope.map String.toList) ++ s.function.toList ++
      MarkerPath.closures s.depth ++ MarkerPath.separator ++ MarkerPath.marker := by
  have hscope : ((s.scope.map (· ++ "::")).getD "").toList =
      MarkerPath.front (s.scope.map String.toList) := by
    cases s.scope with
    | none => rfl
    | some q => exact String.toList_append
  have hclosures : (String.join (List.replicate s.depth "::\x7b\x7bclosure\x7d\x7d")).toList =
      MarkerPath.closures s.depth := by
    rw [String.toList_join, List.flatMap_replicate]
    rfl
  have hmarker : "::__sylog_marker".toList = MarkerPath.separator ++ MarkerPath.marker := rfl
  simp only [path, String.toList_append, hscope, hclosures, hmarker, List.append_assoc]

/-- The caller of a log statement is the function that it stands in. -/
theorem Caller.ofMarkerPath_path (s : Site) : ofMarkerPath s.path = ⟨s.function⟩ := by
  have hname : MarkerPath.functionName s.path.toList = s.function.toList := by
    rw [s.toList_path, s.isName.functionName_eq]
  rw [ofMarkerPath, hname, if_neg s.isName.ne_nil, String.ofList_toList]

end LeveledLog
