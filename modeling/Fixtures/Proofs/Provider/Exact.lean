import Fixtures.Proofs.Provider.Range

/-!
# `Fixtures.Proofs.Provider.Exact`: what evaluations do with integers is exact

Operands are integers of 64 bits, and their sum is one or a fault. Positions are integers too, and
count code points or items. They need not be within the text or the list, and may be negative. A
part of a text is known by the code points before it and those before its end (`IsSlice`), so two
parts that meet are one part again (`IsSlice.append`).

`IsExact` says which integers are accepted as operands and positions and what is made of them, and
`exact_evaluate` that this holds for every expression and every source. The operands are any
expressions that have such values, so each operation has an equation for its run (`run_add`,
`run_index`, `run_method`), and the rest is about the values.
-/

set_option autoImplicit false

namespace Fixtures.Provider

variable {scope : Scope}

/-! ### Parts of texts -/

/-- The text stands in another one from one position up to another: so many code points are before
it, and so many before what is behind it. Positions are integers, as they are in expressions, so
there is no such text for a negative one. -/
def IsSlice (s : String) (first last : Int) (part : String) : Prop :=
  ∃ before behind : String, s = before ++ part ++ behind ∧
    before.toList.length = first ∧ (before ++ part).toList.length = last

section IsSlice

variable {s part more : String} {first middle last : Int}

/-- There is such a part between all positions in order, and it is made of the code points from the
one up to the other. The right side is what the evaluator computes; the left side knows nothing of
taking and dropping. -/
theorem isSlice_iff : IsSlice s first last part ↔ 0 ≤ first ∧ first ≤ last ∧
    last ≤ s.toList.length ∧
    part = String.ofList ((s.toList.take last.toNat).drop first.toNat) := by
  constructor
  · rintro ⟨before, behind, rfl, rfl, rfl⟩
    have hs : (before ++ part ++ behind).toList = (before ++ part).toList ++ behind.toList :=
      String.toList_append
    have hlast : (before ++ part).toList = before.toList ++ part.toList := String.toList_append
    refine ⟨Int.natCast_nonneg _, ?_, ?_, ?_⟩
    · rw [hlast, List.length_append]
      omega
    · rw [hs, List.length_append]
      omega
    · rw [Int.toNat_natCast, Int.toNat_natCast, hs, List.take_left, hlast, List.drop_left,
        String.ofList_toList]
  · rintro ⟨hfirst, hlast, hlength, rfl⟩
    -- The code points before the first position, between both and behind the last one.
    obtain ⟨i, rfl⟩ := Int.eq_ofNat_of_zero_le hfirst
    obtain ⟨j, rfl⟩ := Int.eq_ofNat_of_zero_le (Int.le_trans hfirst hlast)
    rw [Int.toNat_natCast, Int.toNat_natCast]
    have hsplit : s.toList.take i ++ (s.toList.take j).drop i = s.toList.take j := by
      rw [List.drop_take, ← List.take_add]
      congr 1
      omega
    refine ⟨String.ofList (s.toList.take i), String.ofList (s.toList.drop j), ?_, ?_, ?_⟩
    · rw [← String.toList_inj]
      simp [hsplit]
    · rw [String.toList_ofList, List.length_take]
      omega
    · rw [String.toList_append, String.toList_ofList, String.toList_ofList, hsplit,
        List.length_take]
      omega

/-- Parts stand between the positions that are in order and within the text. These are the
positions that `substring` accepts. -/
theorem exists_isSlice_iff : (∃ part, IsSlice s first last part) ↔
    0 ≤ first ∧ first ≤ last ∧ last ≤ s.toList.length := by
  simp only [isSlice_iff, exists_and_left, exists_eq, and_true]

/-- Two parts that meet are one part. This is what makes a text of the parts before and behind a
position the text itself again, and it needs no more than what is before each part. -/
theorem IsSlice.append (hpart : IsSlice s first middle part) (hmore : IsSlice s middle last more) :
    IsSlice s first last (part ++ more) := by
  obtain ⟨before, rest, hs, hfirst, hmiddle⟩ := hpart
  obtain ⟨before', behind, hs', hmiddle', hlast⟩ := hmore
  -- What is before the second part ends with the first.
  have hlists : (before ++ part).toList ++ rest.toList =
      before'.toList ++ (more ++ behind).toList := by
    rw [← String.toList_append, ← hs, hs', String.append_assoc, String.toList_append]
  have hbefore := (List.append_inj hlists (by omega)).1
  obtain rfl := String.toList_inj.mp hbefore
  refine ⟨before, behind, ?_, hfirst, ?_⟩
  · rw [hs', String.append_assoc, String.append_assoc, String.append_assoc, String.append_assoc]
  · rwa [← String.append_assoc]

/-- The part from the start up to the end is the text. -/
theorem IsSlice.eq_self (h : IsSlice s 0 s.toList.length part) : part = s := by
  obtain ⟨-, -, -, rfl⟩ := isSlice_iff.mp h
  simp

end IsSlice

/-! ### Exact operations -/

namespace Value

variable {s : String} {arguments : List Value} {first last i : Int} {v : Value}

/-- A length or size is exact as far as an integer goes, and is never more than it counts. Beyond
that it wraps round, so a bound is all that can be said of it. -/
theorem exists_ofCount_eq (n : Nat) :
    ∃ m : Int, ofCount n = int m ∧ m ≤ n ∧ (n ≤ maxInt → m = n) := by
  refine ⟨_, rfl, ?_, fun h => ?_⟩
  · rw [Int64.toInt_ofNat', Int.bmod_def, Int64.size]
    -- The remainder stays as it is or loses 2 ^ 64, so it never grows.
    split
    · omega
    · omega
  · unfold maxInt at h
    exact Int64.toInt_ofNat_of_lt (by omega)

/-- A position is accepted when it is a natural number. There is no upper bound here: whether the
position is within the text or the list is asked afterwards. -/
theorem toIndex?_int_eq_ok_iff {operation : String} {n : Nat} :
    (int i).toIndex? operation = .ok n ↔ i = n := by
  show (if i < 0 then Except.error _ else .ok i.toNat) = _ ↔ _
  split
  next hneg => exact iff_of_false nofun (by omega)
  next hneg =>
    rw [Except.ok.injEq]
    omega

/-- The step that all forms of `substring` end with gives the part between two positions that are
read already, if there is one. -/
theorem cut_eq_ok_iff {first last : Nat} :
    cut s first last = .ok v ↔ ∃ part, v = text part ∧ IsSlice s first last part := by
  simp only [isSlice_iff, Int.toNat_natCast]
  unfold cut
  split
  next hout => exact iff_of_false nofun fun ⟨part, _, h⟩ => by omega
  next hin =>
    constructor
    · intro h
      exact ⟨_, (Except.ok.inj h).symm, by omega, by omega, by omega, rfl⟩
    · rintro ⟨part, rfl, -, -, -, rfl⟩
      rfl

/-- The positions that the arguments of `substring` are, in a text of a length; the last one is the
end of the text by itself. -/
inductive Positions (length : Nat) : List Value → Int → Int → Prop
  | toEnd {first : Int} : Positions length [.int first] first length
  | upTo {first last : Int} : Positions length [.int first, .int last] first last

/-- `substring` gives the part between the positions if there is one, and fails otherwise. A
negative position already fails when it is read, before it is compared with the other. -/
theorem substring_eq_ok_iff (h : Positions s.toList.length arguments first last) :
    substring s arguments = .ok v ↔ ∃ part, v = text part ∧ IsSlice s first last part := by
  cases h with
  | toEnd =>
    simp only [substring_singleton, bind_eq_ok_iff, toIndex?_int_eq_ok_iff, cut_eq_ok_iff]
    constructor
    · rintro ⟨n, rfl, h⟩
      exact h
    · rintro ⟨part, hv, h⟩
      obtain ⟨n, rfl⟩ := Int.eq_ofNat_of_zero_le (isSlice_iff.mp h).1
      exact ⟨n, rfl, part, hv, h⟩
  | upTo =>
    simp only [substring_cons_cons, bind_eq_ok_iff, toIndex?_int_eq_ok_iff, cut_eq_ok_iff]
    constructor
    · rintro ⟨n, rfl, m, rfl, h⟩
      exact h
    · rintro ⟨part, hv, h⟩
      -- Both positions can be read, because they are in order and the first is not negative.
      obtain ⟨hfirst, hle, -⟩ := isSlice_iff.mp h
      obtain ⟨n, rfl⟩ := Int.eq_ofNat_of_zero_le hfirst
      obtain ⟨m, rfl⟩ := Int.eq_ofNat_of_zero_le (Int.le_trans hfirst hle)
      exact ⟨n, rfl, m, rfl, part, hv, h⟩

/-- The item at a position is that of the list, if there is one. Both `[ ]` and `get` take their
item so. -/
theorem item_eq_ok_iff {items : List Value} :
    item items (int i) = .ok v ↔ ∃ n : Nat, i = n ∧ items[n]? = some v := by
  unfold item
  simp only [bind_eq_ok_iff, toIndex?_int_eq_ok_iff]
  refine exists_congr fun n => and_congr_right fun _ => ?_
  cases items[n]? with
  | none => exact iff_of_false nofun nofun
  | some w => exact (Except.ok.injEq w v).to_iff.trans (Option.some.injEq w v).to_iff.symm

/-- There are items at the positions within the list. -/
theorem exists_item_iff {items : List Value} :
    (∃ v, item items (int i) = .ok v) ↔ 0 ≤ i ∧ i < items.length := by
  simp only [item_eq_ok_iff]
  constructor
  · rintro ⟨v, n, rfl, hv⟩
    have hn := (List.getElem?_eq_some_iff.mp hv).1
    omega
  · rintro ⟨hi, hlt⟩
    obtain ⟨n, rfl⟩ := Int.eq_ofNat_of_zero_le hi
    exact ⟨items[n], n, rfl, List.getElem?_eq_getElem (by omega)⟩

/-- What is taken out of a list is the item at that position. -/
theorem getElem?_of_item {items : List Value} (h : item items (int i) = .ok v) :
    items[i.toNat]? = some v := by
  obtain ⟨n, rfl, hv⟩ := item_eq_ok_iff.mp h
  exact hv

end Value

/-! ### Exact evaluations -/

/-- The evaluation of an expression takes a source to another one, and has this value. It says too
that the evaluation does not fail. -/
abbrev Yields (scope : Scope) (e : Expr) (source : UuidSource) (v : Value) (after : UuidSource) :
    Prop :=
  (evaluate scope e).run source = (.ok v, after)

/-- The same for expressions in order. -/
abbrev YieldsAll (scope : Scope) (es : List Expr) (source : UuidSource) (values : List Value)
    (after : UuidSource) : Prop :=
  (evaluateAll scope es).run source = (.ok values, after)

section Yields

variable {t l r : Expr} {es : List Expr} {v v' : Value} {values : List Value}
  {source middle after : UuidSource}

/-- A sum is made of the values of both operands, the left one evaluated first. It draws what they
draw. -/
theorem run_add (hl : Yields scope l source v middle) (hr : Yields scope r middle v' after) :
    (evaluate scope (.binary .add l r)).run source = (v.add v', after) := by
  simp only [evaluate, run_bind_drawing, hl, hr, run_liftExcept]

/-- An item is taken from the value of the list at the value of the position, evaluated in this
order. -/
theorem run_index (ht : Yields scope t source v middle) (hr : Yields scope r middle v' after) :
    (evaluate scope (.index t r)).run source = (v.index v', after) := by
  simp only [evaluate, run_bind_drawing, ht, hr, run_liftExcept]

/-- A method is called on the value of its receiver with the values of the arguments, evaluated in
this order. -/
theorem run_method {m : Method} (ht : Yields scope t source v middle)
    (hes : YieldsAll scope es middle values after) :
    (evaluate scope (.method t m es)).run source = (v.call m values, after) := by
  simp only [evaluate, run_bind_drawing, ht, hes, run_liftExcept]

/-- Where the run of an expression is known, it has a value exactly if that of the run is no fault.
-/
theorem yields_iff_of_run {x : Except EvalFault Value}
    (h : (evaluate scope t).run source = (x, after)) :
    Yields scope t source v after ↔ x = .ok v := by
  rw [Yields, h]
  exact ⟨congrArg Prod.fst, congrArg (·, after)⟩

theorem yields_text {s : String} : Yields scope (.text s) source (.text s) source := by
  rw [Yields, evaluate]
  rfl

theorem yields_int {n : Int} : Yields scope (.int n) source (.int n) source := by
  rw [Yields, evaluate]
  rfl

/-- No expressions have no values, and draw nothing. -/
theorem yieldsAll_nil : YieldsAll scope [] source [] source := by
  rw [YieldsAll, evaluateAll]
  rfl

/-- The values of some expressions are put together from the first one and the others. -/
theorem yieldsAll_cons (ht : Yields scope t source v middle)
    (hes : YieldsAll scope es middle values after) :
    YieldsAll scope (t :: es) source (v :: values) after := by
  simp only [YieldsAll, evaluateAll, run_bind_drawing, ht, hes]
  rfl

/-- A call of `substring` has the part between its positions as its value, if there is one. The
text and the positions may be values of any expressions. -/
theorem yields_substring_iff {s : String} {first last : Int}
    (ht : Yields scope t source (.text s) middle) (hes : YieldsAll scope es middle values after)
    (h : Value.Positions s.toList.length values first last) :
    Yields scope (.method t .substring es) source v after ↔
      ∃ part, v = .text part ∧ IsSlice s first last part :=
  (yields_iff_of_run (run_method ht hes)).trans (Value.substring_eq_ok_iff h)

/-- The parts before a position and behind it make up the text, also if the text and the position
are computed twice. -/
theorem yields_rejoin {t' : Expr} {es' : List Expr} {s : String} {k : Int} {s₁ s₂ : UuidSource}
    (ht : Yields scope t source (.text s) s₁) (hes : YieldsAll scope es s₁ [.int 0, .int k] middle)
    (ht' : Yields scope t' middle (.text s) s₂) (hes' : YieldsAll scope es' s₂ [.int k] after)
    (hk : 0 ≤ k) (hlength : k ≤ s.toList.length) :
    Yields scope (.binary .add (.method t .substring es) (.method t' .substring es')) source
      (.text s) after := by
  -- Both parts are there, because the position is within the text.
  obtain ⟨before, hbefore⟩ := exists_isSlice_iff.mpr ⟨Int.le_refl 0, hk, hlength⟩
  obtain ⟨behind, hbehind⟩ := exists_isSlice_iff.mpr ⟨hk, hlength, Int.le_refl _⟩
  have hl := (yields_substring_iff ht hes .upTo).mpr ⟨before, rfl, hbefore⟩
  have hr := (yields_substring_iff ht' hes' .toEnd).mpr ⟨behind, rfl, hbehind⟩
  have hadd : (Value.text before).add (.text behind) = .ok (.text (before ++ behind)) := rfl
  rw [Yields, run_add hl hr, hadd, (hbefore.append hbehind).eq_self]

end Yields

/-- Integers are in range in the evaluations of a scope, and what is done with them is exact. Each
field takes the operands as values that some expressions have, and says for which of them the
operation has a value, and which one. Where it has none, it ends with a fault and not with another
value. -/
structure IsExact (scope : Scope) : Prop where
  /-- All integers in the values of all parts of an expression have 64 bits. -/
  inRange : ∀ e s source v after, Expr.InRange e → s.Within e → Yields scope s source v after →
    v.InRange
  /-- The sum of two integers is a fault when it has more than 64 bits. -/
  add : ∀ l r a b source middle after,
    Yields scope l source (.int a) middle → Yields scope r middle (.int b) after →
    (evaluate scope (.binary .add l r)).run source =
      (if IsLong (a + b) then .ok (.int (a + b)) else .error .overflow, after)
  /-- Positions are those of a part of a text when they are in order and within the text. -/
  substring : ∀ t es s values first last source middle after,
    Yields scope t source (.text s) middle → YieldsAll scope es middle values after →
    Value.Positions s.toList.length values first last →
    ((∃ v, Yields scope (.method t .substring es) source v after) ↔
      0 ≤ first ∧ first ≤ last ∧ last ≤ s.toList.length) ∧
    ∀ v, Yields scope (.method t .substring es) source v after →
      ∃ part, v = .text part ∧ IsSlice s first last part
  /-- The parts of a text before a position and behind it make up the text. -/
  rejoin : ∀ t t' es es' s k source s₁ s₂ s₃ after,
    Yields scope t source (.text s) s₁ → YieldsAll scope es s₁ [.int 0, .int k] s₂ →
    Yields scope t' s₂ (.text s) s₃ → YieldsAll scope es' s₃ [.int k] after →
    0 ≤ k → k ≤ s.toList.length →
    Yields scope (.binary .add (.method t .substring es) (.method t' .substring es')) source
      (.text s) after
  /-- Positions are those of items when they are within the list. -/
  index : ∀ t p items i source middle after,
    Yields scope t source (.list items) middle → Yields scope p middle (.int i) after →
    ((∃ v, Yields scope (.index t p) source v after) ↔ 0 ≤ i ∧ i < items.length) ∧
    ∀ v, Yields scope (.index t p) source v after → items[i.toNat]? = some v
  /-- The same for `get`. -/
  get : ∀ t es items i source middle after,
    Yields scope t source (.list items) middle → YieldsAll scope es middle [.int i] after →
    ((∃ v, Yields scope (.method t .get es) source v after) ↔ 0 ≤ i ∧ i < items.length) ∧
    ∀ v, Yields scope (.method t .get es) source v after → items[i.toNat]? = some v
  /-- The length of a text counts its code points as far as an integer goes, and never more. -/
  length : ∀ t s source after, Yields scope t source (.text s) after →
    ∃ n, Yields scope (.method t .length []) source (.int n) after ∧ n ≤ s.toList.length ∧
      (s.toList.length ≤ Value.maxInt → n = s.toList.length)
  /-- The same for the items of a list. -/
  size : ∀ t items source after, Yields scope t source (.list items) after →
    ∃ n, Yields scope (.method t .size []) source (.int n) after ∧ n ≤ items.length ∧
      (items.length ≤ Value.maxInt → n = items.length)

/-- The integers of what the compiler returns are in range; evaluations keep integers in range and
are exact. The second half is about all expressions, also about such as the compiler never returns.
Only the range of integers needs that those in the expression are in range. -/
theorem exact_evaluate :
    (∀ source p, compile? source = .ok p → p.body.InRange) ∧ ∀ scope, IsExact scope := by
  refine ⟨fun source p h => (isWellFormed_of_compile? h).inRange, fun scope => ?_⟩
  constructor
  case inRange =>
    intro e s source v after he hs h
    -- A part has no other integers than the whole, so its literals are in range too.
    exact (he.of_within hs).inRange_evaluate source v (congrArg Prod.fst h)
  case add =>
    intro l r a b source middle after hl hr
    exact run_add hl hr
  case substring =>
    intro t es s values first last source middle after ht hes hpositions
    simp only [yields_substring_iff ht hes hpositions]
    refine ⟨?_, fun v => id⟩
    -- The value that there is determines the part, and the part the value.
    rw [← exists_isSlice_iff, exists_comm]
    exact exists_congr fun part => ⟨fun ⟨_, _, h⟩ => h, fun h => ⟨_, rfl, h⟩⟩
  case rejoin =>
    intro t t' es es' s k source s₁ s₂ s₃ after ht hes ht' hes' hk hlength
    exact yields_rejoin ht hes ht' hes' hk hlength
  case index =>
    intro t p items i source middle after ht hp
    simp only [yields_iff_of_run (run_index ht hp)]
    exact ⟨Value.exists_item_iff, fun v => Value.getElem?_of_item⟩
  case get =>
    intro t es items i source middle after ht hes
    simp only [yields_iff_of_run (run_method ht hes)]
    exact ⟨Value.exists_item_iff, fun v => Value.getElem?_of_item⟩
  case length =>
    intro t s source after ht
    obtain ⟨n, hn, h⟩ := Value.exists_ofCount_eq s.toList.length
    exact ⟨n, (yields_iff_of_run (run_method ht yieldsAll_nil)).mpr (congrArg _ hn), h⟩
  case size =>
    intro t items source after ht
    obtain ⟨n, hn, h⟩ := Value.exists_ofCount_eq items.length
    exact ⟨n, (yields_iff_of_run (run_method ht yieldsAll_nil)).mpr (congrArg _ hn), h⟩

/-- A field of a number, in an enum of two constants. -/
def colours : Scope where
  field := counter.field
  owner := .declared "paint.Colour" [] [] (.describedEnum ["RED", "GREEN"])

/-- At the largest integer, and in a text of four code points and ten bytes. Positions beyond the
fourth code point are refused, though there are bytes left. -/
theorem exact_evaluate_colours :
    (∃ p, compile? "9223372036854775807 + 1" = .ok p ∧ p.body.InRange) ∧
    (evaluate colours (.binary .add (.int 9223372036854775807) (.int 1))).run (.ofSeed 0) =
      (.error .overflow, .ofSeed 0) ∧
    (∃ v, Yields colours (.method (.text "aé😀b") .substring [.int 1, .int 4]) (.ofSeed 0) v
      (.ofSeed 0)) ∧
    (¬ ∃ v, Yields colours (.method (.text "aé😀b") .substring [.int 1, .int 5]) (.ofSeed 0) v
      (.ofSeed 0)) ∧
    Yields colours (.binary .add (.method (.text "aé😀b") .substring [.int 0, .int 2])
      (.method (.text "aé😀b") .substring [.int 2])) (.ofSeed 0) (.text "aé😀b") (.ofSeed 0) ∧
    (∃ v, Yields colours (.index (.property (.input .type) .enumConstants) (.int 1)) (.ofSeed 0) v
      (.ofSeed 0) ∧ v.InRange) ∧
    ¬ ∃ v, Yields colours (.index (.property (.input .type) .enumConstants) (.int 2)) (.ofSeed 0) v
      (.ofSeed 0) := by
  have hexact := exact_evaluate.2 colours
  have hconstants : Yields colours (.property (.input .type) .enumConstants) (.ofSeed 0)
      (.list [.text "RED", .text "GREEN"]) (.ofSeed 0) := by
    simp only [Yields, evaluate]
    rfl
  have hindex (i : Int) := hexact.index _ _ _ i _ _ _ hconstants yields_int
  have htext : Yields colours (.text "aé😀b") (.ofSeed 0) (.text "aé😀b") (.ofSeed 0) := yields_text
  have hone (i : Int) : YieldsAll colours [.int i] (.ofSeed 0) [.int i] (.ofSeed 0) :=
    yieldsAll_cons yields_int yieldsAll_nil
  have htwo (i j : Int) :
      YieldsAll colours [.int i, .int j] (.ofSeed 0) [.int i, .int j] (.ofSeed 0) :=
    yieldsAll_cons yields_int (hone j)
  have hpart (i j : Int) := (hexact.substring _ _ _ _ _ _ _ _ _ htext (htwo i j) .upTo).1
  refine ⟨?_, ?_, ?_, ?_, ?_, ?_, ?_⟩
  · have hsome : (compile? "9223372036854775807 + 1").toOption.isSome = true := by decide +kernel
    obtain ⟨p, hp⟩ := Option.isSome_iff_exists.mp hsome
    have hp := toOption_eq_some_iff.mp hp
    exact ⟨p, hp, exact_evaluate.1 _ p hp⟩
  · exact hexact.add _ _ _ _ _ _ _ yields_int yields_int
  · exact (hpart 1 4).mpr (by decide)
  · exact fun h => absurd ((hpart 1 5).mp h) (by decide)
  · exact hexact.rejoin _ _ _ _ _ 2 _ _ _ _ _ htext (htwo 0 2) htext (hone 2) (by decide)
      (by decide)
  · obtain ⟨v, hv⟩ := (hindex 1).1.mpr (by decide)
    have hrange : (Expr.index (.property (.input .type) .enumConstants) (.int 1)).InRange :=
      .index (.property .input) (.int (by decide))
    exact ⟨v, hv, hexact.inRange _ _ _ _ _ hrange .self hv⟩
  · exact fun h => absurd ((hindex 2).1.mp h) (by decide)

end Fixtures.Provider
