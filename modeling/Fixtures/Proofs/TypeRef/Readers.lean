import Fixtures.Proofs.TypeRef.Grammar
import Mathlib.Data.List.TakeWhile

/-!
# `Fixtures.Proofs.TypeRef.Readers`: what each reader of types gives

One statement for each reader of the parser, in terms of the readers it calls: names, then `CoreAt`
and `PairsAt` for a type and the brackets after it, `BoundAt` for what follows a question mark, and
`gives_argumentsAt_iff`. The proofs that follow never open a reader.

Blanks in front of a token belong to nothing, and readers differ in whether they skip them. Texts
that differ only in such blanks are the same to the next reader (`SameText`).
-/

set_option autoImplicit false

namespace Fixtures.TypeRef

open Text

/-! ### Tokens -/

/-- A symbol is eaten where it is the next token. -/
theorem eat?_eq_some_iff {c : Char} {s rest : List Char} :
    eat? c s = some rest ↔ Lexeme [c] s rest := by
  unfold eat? Lexeme
  split
  · next h => simp [h]
  · next d s₁ h =>
    by_cases hd : d = c
    · simp [h, hd]
    · simp [h, hd]

/-- Texts that differ in the blanks at their front only. To the next reader they are the same. -/
def SameText (s s' : List Char) : Prop := s.dropWhile isBlank = s'.dropWhile isBlank

/-- Blanks do not matter for the next symbol. -/
theorem eat?_congr {c : Char} {s s' : List Char} (h : SameText s s') : eat? c s = eat? c s' := by
  unfold SameText at h
  simp only [eat?, h]

/-- Where one token is next, no symbol is that starts differently. -/
theorem Lexeme.eat?_eq_none {c d : Char} {word s rest : List Char}
    (h : Lexeme (c :: word) s rest) (hne : c ≠ d) : eat? d s = none := by
  unfold Lexeme at h
  simp [eat?, h, hne]

/-- A token is found behind other blanks, too, since its own blanks are skipped. -/
theorem Lexeme.congr {word s s' rest : List Char} (h : Lexeme word s rest) (hs : SameText s s') :
    Lexeme word s' rest :=
  hs.symm.trans h

/-- A token leaves no more than there was. -/
theorem Lexeme.length_le {word s rest : List Char} (h : Lexeme word s rest) :
    rest.length ≤ s.length := by
  have hle := length_dropWhile_le isBlank s
  rw [h, List.length_append] at hle
  omega

/-- The start of an identifier and what goes on with it is a word. -/
theorem forall_isIdentPart_cons {c : Char} {cs : List Char} (hc : isIdentStart c = true)
    (hcs : ∀ d ∈ cs, isIdentPart d = true) : ∀ d ∈ c :: cs, isIdentPart d = true := by
  intro d hd
  rcases List.mem_cons.mp hd with rfl | hd
  · exact isIdentPart_of_isIdentStart d hc
  · exact hcs d hd

/-- A dot ends a word. -/
theorem ends_dot (rest : List Char) : Ends isIdentPart ('.' :: rest) := by
  intro c hc
  cases hc
  rfl

/-- What is read from the start of an identifier is a name up to the end of its last word. The
recursion is the reader's: each word but the last one is followed by a dot and the start of another
one. -/
theorem isName_of_segmentsAt {c : Char} {cs name rest : List Char} (hc : isIdentStart c = true)
    (h : Gives (segmentsAt (c :: cs)) name rest) :
    IsName name ∧ c :: cs = name ++ rest ∧ Ends isIdentPart rest := by
  have hword : (c :: cs).takeWhile isIdentPart = c :: cs.takeWhile isIdentPart :=
    List.takeWhile_cons_of_pos (isIdentPart_of_isIdentStart c hc)
  have hpart : ∀ d ∈ cs.takeWhile isIdentPart, isIdentPart d = true :=
    fun d hd => List.mem_takeWhile_imp hd
  have hsplit : c :: cs.takeWhile isIdentPart ++ (c :: cs).dropWhile isIdentPart = c :: cs := by
    rw [← hword, List.takeWhile_append_dropWhile]
  rw [segmentsAt] at h
  simp only [hword] at h
  split at h
  -- The name goes on behind the dot, with what is shorter than the whole of it.
  · next d more hdrop =>
    split at h
    · next hd =>
      split at h
      · simp at h
      · next r hr =>
        obtain ⟨rfl, rfl⟩ := gives_ok_iff.mp h
        have hlt : more.length < cs.length := by
          simpa using length_lt_of_dropWhile hdrop
        obtain ⟨hname, hmore, hend⟩ := isName_of_segmentsAt hd (gives_of_eq_ok hr)
        refine ⟨.dotted hc hpart hname, ?_, hend⟩
        show c :: cs = c :: cs.takeWhile isIdentPart ++ '.' :: r.value ++ r.rest
        rw [List.append_assoc, List.cons_append (a := '.'), ← hmore, ← hdrop, hsplit]
    · simp at h
  · simp at h
  · obtain ⟨rfl, rfl⟩ := gives_ok_iff.mp h
    exact ⟨.word hc hpart, hsplit.symm, ends_dropWhile _ _⟩
termination_by cs.length

/-- A name is read back where nothing goes on with it: no further character of its last word, and
no dot, which would start another word. -/
theorem gives_segmentsAt {name rest : List Char} (hname : IsName name)
    (hend : Ends isIdentPart rest) (hdot : rest.head? ≠ some '.') :
    Gives (segmentsAt (name ++ rest)) name rest := by
  induction hname with
  | @word c cs hc hcs =>
    have hpart := forall_isIdentPart_cons hc hcs
    have hdrop := dropWhile_append_of_ends hpart hend
    rw [segmentsAt]
    split
    · next h =>
      rw [hdrop] at h
      simp [h] at hdot
    · next h =>
      rw [hdrop] at h
      simp [h] at hdot
    · exact gives_ok_iff.mpr ⟨takeWhile_append_of_ends hpart hend, hdrop⟩
  | @dotted c cs more hc hcs hmore ih =>
    -- The first word ends at the dot, the others where the whole name does.
    obtain ⟨d, ds, rfl, hd⟩ := hmore.exists_cons
    have hpart := forall_isIdentPart_cons hc hcs
    have happend : c :: cs ++ '.' :: d :: ds ++ rest = c :: cs ++ '.' :: d :: (ds ++ rest) := by
      simp
    have htake := takeWhile_append_of_ends hpart (ends_dot (d :: (ds ++ rest)))
    have hdrop := dropWhile_append_of_ends hpart (ends_dot (d :: (ds ++ rest)))
    obtain ⟨r, hr, hvalue, hrest⟩ : Gives (segmentsAt (d :: (ds ++ rest))) (d :: ds) rest := ih
    rw [happend, segmentsAt]
    split
    · next d' more' h =>
      obtain ⟨rfl, rfl⟩ : d = d' ∧ ds ++ rest = more' := by simpa using hdrop.symm.trans h
      simp only [hd, if_true, hr]
      refine gives_ok_iff.mpr ⟨?_, hrest⟩
      show List.takeWhile isIdentPart _ ++ '.' :: r.value = _
      rw [htake, hvalue]
    · next h => exact absurd (hdrop.symm.trans h) (by simp)
    · next hne _ => exact absurd hdrop (hne _ _)

/-- What is read as a name is one, up to the end of its last word. Blanks in front of it are
skipped, and none inside it. -/
theorem isName_of_nameAt {s rest : List Char} {name : String} (h : Gives (nameAt s) name rest) :
    IsName name.toList ∧ Lexeme name.toList s rest ∧ Ends isIdentPart rest := by
  rw [nameAt] at h
  split at h
  · simp at h
  · next c cs hdrop =>
    split at h
    · next hc =>
      split at h
      · simp at h
      · next r hr =>
        obtain ⟨rfl, rfl⟩ := gives_ok_iff.mp h
        obtain ⟨hname, hsplit, hend⟩ := isName_of_segmentsAt hc (gives_of_eq_ok hr)
        refine ⟨?_, ?_, hend⟩
        · simpa using hname
        · simpa [Lexeme, hdrop] using hsplit
    · simp at h

/-- A name is read where it is the next token and nothing goes on with it. -/
theorem gives_nameAt {s rest : List Char} {name : String} (hname : IsName name.toList)
    (h : Lexeme name.toList s rest) (hend : Ends isIdentPart rest) (hdot : rest.head? ≠ some '.') :
    Gives (nameAt s) name rest := by
  obtain ⟨c, cs, hcs, hc⟩ := hname.exists_cons
  have hdrop : s.dropWhile isBlank = c :: (cs ++ rest) := by
    rw [h, hcs, List.cons_append]
  obtain ⟨r, hr, hvalue, hrest⟩ : Gives (segmentsAt (c :: (cs ++ rest))) name.toList rest := by
    have := gives_segmentsAt hname hend hdot
    rwa [hcs] at this ⊢
  rw [nameAt]
  split
  · next hnil => exact absurd (hdrop.symm.trans hnil) (by simp)
  · next c' cs' hdrop' =>
    obtain ⟨rfl, rfl⟩ : c = c' ∧ cs ++ rest = cs' := by simpa using hdrop.symm.trans hdrop'
    simp only [hc, if_true, hr]
    exact gives_ok_iff.mpr ⟨by simp [hvalue], hrest⟩

/-! ### What each reader gives -/

/-- A type inside this many array types, which is what the brackets behind it make of it. -/
def arrays : Nat → TypeRef → TypeRef
  | 0, t => t
  | n + 1, t => arrays n (array t)

/-- So many pairs of brackets are next, and no bracket is opened after them. Blanks may stand in
front of each bracket. -/
inductive PairsAt : Nat → List Char → List Char → Prop
  | zero {s : List Char} (h : eat? '[' s = none) : PairsAt 0 s s
  | pair {n : Nat} {s s₁ s₂ rest : List Char} (ho : eat? '[' s = some s₁)
      (hc : eat? ']' s₁ = some s₂) (h : PairsAt n s₂ rest) : PairsAt (n + 1) s rest

/-- What a type reads in front of its brackets, with one form for each branch of the reader. -/
inductive CoreAt : List Char → TypeRef → List Char → Prop
  | wildcard {s s₁ rest : List Char} {bound : TypeRef} (hq : eat? '?' s = some s₁)
      (hbound : Gives (boundAt s₁) bound rest) : CoreAt s bound rest
  | primitive {s rest : List Char} {name : String} {kind : Primitive} (hq : eat? '?' s = none)
      (hname : Gives (nameAt s) name rest) (hkey : Primitive.ofKeyword? name = some kind) :
      CoreAt s (.primitive kind) rest
  | raw {s rest : List Char} {name : String} (hq : eat? '?' s = none)
      (hname : Gives (nameAt s) name rest) (hkey : Primitive.ofKeyword? name = none)
      (ho : eat? '<' rest = none) : CoreAt s (named name) rest
  | generic {s s₁ s₂ rest : List Char} {name : String} {arguments : List TypeRef}
      (hq : eat? '?' s = none) (hname : Gives (nameAt s) name s₁)
      (hkey : Primitive.ofKeyword? name = none) (ho : eat? '<' s₁ = some s₂)
      (harguments : Gives (argumentsAt s₂) arguments rest) : CoreAt s (declared name arguments) rest

/-- What a wildcard reads after its question mark. Any other word than the two of bounds is left to
what follows, and is an error there. -/
inductive BoundAt : List Char → TypeRef → List Char → Prop
  | upper {s s₁ rest : List Char} {t : TypeRef} (hword : Lexeme "extends".toList s s₁)
      (hend : Ends isIdentPart s₁) (h : Gives (typeAt s₁) t rest) : BoundAt s t rest
  | lower {s s₁ rest : List Char} {t : TypeRef} (hword : Lexeme "super".toList s s₁)
      (hend : Ends isIdentPart s₁) (h : Gives (typeAt s₁) t rest) :
      BoundAt s (named objectName) rest
  | unbounded {s : List Char}
      (hupper : (s.dropWhile isBlank).takeWhile isIdentPart ≠ "extends".toList)
      (hlower : (s.dropWhile isBlank).takeWhile isIdentPart ≠ "super".toList) :
      BoundAt s (named objectName) (s.dropWhile isBlank)

/-- Brackets are read in pairs, each of which makes an array type. By recursion on the text, as the
reader does it. -/
theorem pairsAt_of_bracketsAt {s rest : List Char} {t u : TypeRef}
    (h : Gives (bracketsAt t s) u rest) : ∃ n, PairsAt n s rest ∧ u = arrays n t := by
  rw [bracketsAt] at h
  split at h
  · next ho =>
    obtain ⟨rfl, rfl⟩ := gives_ok_iff.mp h
    exact ⟨0, .zero ho, rfl⟩
  · next s₁ ho =>
    split at h
    · simp at h
    · next s₂ hc =>
      have hlt : s₂.length < s.length :=
        Nat.lt_trans (length_lt_of_eat? hc) (length_lt_of_eat? ho)
      simp only at h
      split at h
      · simp at h
      · next r hr =>
        obtain ⟨rfl, rfl⟩ := gives_ok_iff.mp h
        obtain ⟨n, hpairs, hu⟩ := pairsAt_of_bracketsAt (gives_of_eq_ok hr)
        exact ⟨n + 1, .pair ho hc hpairs, hu⟩
termination_by s.length

/-- Pairs of brackets are read as such. -/
theorem PairsAt.gives_bracketsAt {n : Nat} {s rest : List Char} (h : PairsAt n s rest)
    (t : TypeRef) : Gives (bracketsAt t s) (arrays n t) rest := by
  induction h generalizing t with
  | zero ho =>
    rw [bracketsAt]
    split
    · exact gives_ok_iff.mpr ⟨rfl, rfl⟩
    · next ho' => simp [ho] at ho'
  | pair ho hc h ih =>
    obtain ⟨r, hr, hvalue, hrest⟩ := ih (array t)
    rw [bracketsAt]
    split
    · next ho' => simp [ho] at ho'
    · next ho' =>
      cases ho.symm.trans ho'
      split
      · next hc' => simp [hc] at hc'
      · next hc' =>
        cases hc.symm.trans hc'
        simp only [hr]
        exact gives_ok_iff.mpr ⟨hvalue, hrest⟩

/-- No bracket is opened after all pairs. -/
theorem PairsAt.eat?_eq_none {n : Nat} {s rest : List Char} (h : PairsAt n s rest) :
    eat? '[' rest = none := by
  induction h with
  | zero ho => exact ho
  | pair ho hc h ih => exact ih

/-- Blanks do not matter for pairs of brackets. -/
theorem PairsAt.congr {n : Nat} {s s' rest : List Char} (h : PairsAt n s rest)
    (hs : SameText s s') : ∃ rest', SameText rest rest' ∧ PairsAt n s' rest' := by
  cases h with
  | zero ho => exact ⟨s', hs, .zero ((eat?_congr hs).symm.trans ho)⟩
  | pair ho hc h => exact ⟨rest, rfl, .pair ((eat?_congr hs).symm.trans ho) hc h⟩

/-- A type is read as what stands in front of its brackets, inside of array types. After this the
reader of types need not be opened any more. -/
theorem exists_coreAt_of_typeAt {s rest : List Char} {t : TypeRef} (h : Gives (typeAt s) t rest) :
    ∃ u s₁ n, CoreAt s u s₁ ∧ PairsAt n s₁ rest ∧ t = arrays n u := by
  rw [typeAt] at h
  split at h
  · next s₁ hq =>
    split at h
    · simp at h
    · next bound hbound =>
      split at h
      · simp at h
      · next r hr =>
        obtain ⟨rfl, rfl⟩ := gives_ok_iff.mp h
        obtain ⟨n, hpairs, ht⟩ := pairsAt_of_bracketsAt (gives_of_eq_ok hr)
        exact ⟨_, _, n, .wildcard hq (gives_of_eq_ok hbound), hpairs, ht⟩
  · next hq =>
    split at h
    · simp at h
    · next name hname =>
      split at h
      · next kind hkey =>
        split at h
        · simp at h
        · next r hr =>
          obtain ⟨rfl, rfl⟩ := gives_ok_iff.mp h
          obtain ⟨n, hpairs, ht⟩ := pairsAt_of_bracketsAt (gives_of_eq_ok hr)
          exact ⟨_, _, n, .primitive hq (gives_of_eq_ok hname) hkey, hpairs, ht⟩
      · next hkey =>
        split at h
        · next ho =>
          split at h
          · simp at h
          · next r hr =>
            obtain ⟨rfl, rfl⟩ := gives_ok_iff.mp h
            obtain ⟨n, hpairs, ht⟩ := pairsAt_of_bracketsAt (gives_of_eq_ok hr)
            exact ⟨_, _, n, .raw hq (gives_of_eq_ok hname) hkey ho, hpairs, ht⟩
        · next s₁ ho =>
          simp only at h
          split at h
          · simp at h
          · next arguments harguments =>
            split at h
            · simp at h
            · next r hr =>
              obtain ⟨rfl, rfl⟩ := gives_ok_iff.mp h
              obtain ⟨n, hpairs, ht⟩ := pairsAt_of_bracketsAt (gives_of_eq_ok hr)
              exact ⟨_, _, n, .generic hq (gives_of_eq_ok hname) hkey ho
                (gives_of_eq_ok harguments), hpairs, ht⟩

/-- What stands in front of brackets and the brackets are read as a type. -/
theorem CoreAt.gives_typeAt {n : Nat} {s s₁ rest : List Char} {t : TypeRef} (h : CoreAt s t s₁)
    (hpairs : PairsAt n s₁ rest) : Gives (typeAt s) (arrays n t) rest := by
  obtain ⟨r, hr, hvalue, hrest⟩ := hpairs.gives_bracketsAt t
  rw [typeAt]
  cases h with
  | wildcard hq hbound =>
    obtain ⟨bound, hbound, rfl, rfl⟩ := hbound
    split
    · next hq' =>
      cases hq.symm.trans hq'
      simp only [hbound, hr]
      exact gives_ok_iff.mpr ⟨hvalue, hrest⟩
    · next hq' => simp [hq] at hq'
  | primitive hq hname hkey =>
    obtain ⟨name, hname, rfl, rfl⟩ := hname
    split
    · next hq' => simp [hq] at hq'
    · simp only [hname, hkey, hr]
      exact gives_ok_iff.mpr ⟨hvalue, hrest⟩
  | raw hq hname hkey ho =>
    obtain ⟨name, hname, rfl, rfl⟩ := hname
    split
    · next hq' => simp [hq] at hq'
    · simp only [hname, hkey]
      split
      · simp only [hr]
        exact gives_ok_iff.mpr ⟨hvalue, hrest⟩
      · next ho' => simp [ho] at ho'
  | generic hq hname hkey ho harguments =>
    obtain ⟨name, hname, rfl, rfl⟩ := hname
    obtain ⟨arguments, harguments, rfl, rfl⟩ := harguments
    split
    · next hq' => simp [hq] at hq'
    · simp only [hname, hkey]
      split
      · next ho' => simp [ho] at ho'
      · next ho' =>
        cases ho.symm.trans ho'
        simp only [harguments, hr]
        exact gives_ok_iff.mpr ⟨hvalue, hrest⟩

/-- A word in front is found again among the characters of identifiers. -/
theorem Lexeme.takeWhile_eq {w : String} {s rest : List Char} (h : Lexeme w.toList s rest)
    (hw : isIdent w = true) (hend : Ends isIdentPart rest) :
    (s.dropWhile isBlank).takeWhile isIdentPart = w.toList ∧
      (s.dropWhile isBlank).dropWhile isIdentPart = rest := by
  obtain ⟨c, cs, hcs, hc, hcs'⟩ := exists_cons_of_isIdent hw
  have hpart := forall_isIdentPart_cons hc hcs'
  rw [h, hcs]
  exact ⟨takeWhile_append_of_ends hpart hend, dropWhile_append_of_ends hpart hend⟩

/-- The characters of identifiers in front are a token. -/
theorem lexeme_takeWhile (s : List Char) :
    Lexeme ((s.dropWhile isBlank).takeWhile isIdentPart) s
      ((s.dropWhile isBlank).dropWhile isIdentPart) :=
  List.takeWhile_append_dropWhile.symm

/-- A bound is read as it is written, and is none without one of the two words. -/
theorem gives_boundAt_iff {s rest : List Char} {t : TypeRef} :
    Gives (boundAt s) t rest ↔ BoundAt s t rest := by
  constructor
  · intro h
    have hlex := lexeme_takeWhile s
    have hend := ends_dropWhile isIdentPart (s.dropWhile isBlank)
    rw [boundAt] at h
    -- The reader compares texts, and the two words of bounds are stated as characters.
    generalize htake : (s.dropWhile isBlank).takeWhile isIdentPart = word at h hlex
    split at h
    · next hword =>
      split at h
      · simp at h
      · next r hr =>
        obtain ⟨rfl, rfl⟩ := gives_ok_iff.mp h
        rcases hword with hword | hword
        · rw [← String.toList_ofList (l := word), hword] at hlex
          simp only [hword, Reading.value_widen, Reading.value_map, if_true]
          exact .upper hlex hend (gives_of_eq_ok hr)
        · rw [← String.toList_ofList (l := word), hword] at hlex
          simp only [hword, Reading.value_widen, Reading.value_map, String.reduceEq, if_false,
            Reading.rest_widen, Reading.rest_map]
          exact .lower hlex hend (gives_of_eq_ok hr)
    · next hword =>
      obtain ⟨hupper, hlower⟩ := not_or.mp hword
      obtain ⟨rfl, rfl⟩ := gives_ok_iff.mp h
      refine .unbounded ?_ ?_
      · rintro he
        exact hupper (by rw [← htake, he, String.ofList_toList])
      · rintro he
        exact hlower (by rw [← htake, he, String.ofList_toList])
  · intro h
    rw [boundAt]
    cases h with
    | upper hword hend h =>
      obtain ⟨htake, rfl⟩ := hword.takeWhile_eq rfl hend
      obtain ⟨r, hr, rfl, rfl⟩ := h
      simp [htake, hr]
    | lower hword hend h =>
      obtain ⟨htake, rfl⟩ := hword.takeWhile_eq rfl hend
      obtain ⟨r, hr, -, rfl⟩ := h
      simp [htake, hr]
    | unbounded hupper hlower =>
      have hne : ∀ word : String, (s.dropWhile isBlank).takeWhile isIdentPart ≠ word.toList →
          String.ofList ((s.dropWhile isBlank).takeWhile isIdentPart) ≠ word := by
        intro word hword he
        exact hword (by rw [← he, String.toList_ofList])
      simp [hne _ hupper, hne _ hlower]

/-- Arguments are a type each, with a comma before the next one and the closing bracket after the
last one. -/
theorem gives_argumentsAt_iff {s rest : List Char} {ts : List TypeRef} :
    Gives (argumentsAt s) ts rest ↔ ∃ t s₁, Gives (typeAt s) t s₁ ∧
      ((∃ s₂ more, eat? ',' s₁ = some s₂ ∧ Gives (argumentsAt s₂) more rest ∧ ts = t :: more) ∨
        (eat? ',' s₁ = none ∧ eat? '>' s₁ = some rest ∧ ts = [t])) := by
  constructor
  · intro h
    rw [argumentsAt] at h
    split at h
    · simp at h
    · next first hfirst =>
      refine ⟨first.value, first.rest, gives_of_eq_ok hfirst, ?_⟩
      split at h
      · next s₂ hc =>
        simp only at h
        split at h
        · simp at h
        · next more hmore =>
          obtain ⟨rfl, rfl⟩ := gives_ok_iff.mp h
          exact .inl ⟨s₂, more.value, hc, gives_of_eq_ok hmore, rfl⟩
      · next hc =>
        split at h
        · simp at h
        · next s₂ hclose =>
          obtain ⟨rfl, rfl⟩ := gives_ok_iff.mp h
          exact .inr ⟨hc, hclose, rfl⟩
  · rintro ⟨t, s₁, ⟨first, hfirst, rfl, rfl⟩, h⟩
    rw [argumentsAt]
    simp only [hfirst]
    rcases h with ⟨s₂, more, hc, ⟨r, hr, rfl, rfl⟩, rfl⟩ | ⟨hc, hclose, rfl⟩
    · split
      · next hc' =>
        cases hc.symm.trans hc'
        simp [hr]
      · next hc' => simp [hc] at hc'
    · split
      · next hc' => simp [hc] at hc'
      · split
        · next hclose' => simp [hclose] at hclose'
        · next hclose' =>
          cases hclose.symm.trans hclose'
          simp

end Fixtures.TypeRef
