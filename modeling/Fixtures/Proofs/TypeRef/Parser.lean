import Fixtures.Proofs.TypeRef.Readers

/-!
# `Fixtures.Proofs.TypeRef.Parser`: the parser accepts the written forms

The parser reads the grammar of written types, no more and no less, and the type it returns is the
one that the grammar gives to the text. Both directions are inductions, along the text for what was
read and along the derivation for what is written.

Three things have to be carried along. A reader and a derivation may leave different blanks
(`SameText`). A bound takes the brackets that follow the wildcard, so a type is read together with
them (`Phrase.IsRead`). And words are read as far as they go, so a written type is found again only
in front of a symbol that may follow one (`Closes`).
-/

set_option autoImplicit false

namespace Fixtures.TypeRef

open Text

/-! ### What is read is a written form -/

/-- The keyword of a primitive is the name it was found by. -/
theorem keyword_of_ofKeyword? {name : String} {kind : Primitive}
    (h : Primitive.ofKeyword? name = some kind) : kind.keyword = name := by
  simpa using List.find?_some h

/-- Pairs of brackets go on with a written type. Behind a lower bound there are none left, as the
bound has taken them. -/
theorem PairsAt.exists_derives {n : Nat} {s₁ rest : List Char} (hpairs : PairsAt n s₁ rest) :
    ∀ {s s₁' : List Char} {t : TypeRef} {lower : Bool}, Derives (.type t lower) s s₁' →
      SameText s₁' s₁ → (lower = true → eat? '[' s₁ = none) →
      ∃ rest', SameText rest' rest ∧ Derives (.type (arrays n t) lower) s rest' := by
  induction hpairs with
  | zero =>
    intro s s₁' t lower h hs hlower
    exact ⟨s₁', hs, h⟩
  | @pair n s₁ s₂ s₃ rest ho hc hpairs ih =>
    intro s s₁' t lower h hs hlower
    -- Behind a lower bound there are no brackets, so each pair makes an array.
    have hfalse : lower = false := by
      cases lower with
      | false => rfl
      | true => simp [hlower rfl] at ho
    subst hfalse
    have hopen := (eat?_eq_some_iff.mp ho).congr hs.symm
    exact ih (.brackets h hopen (eat?_eq_some_iff.mp hc)) rfl (by simp)

mutual

/-- What is read as a type is a written form of it. The measure of the recursion is the text, and a
bound counts for half a step more than the type in it. -/
theorem exists_derives_of_typeAt {s rest : List Char} {t : TypeRef}
    (h : Gives (typeAt s) t rest) :
    ∃ lower rest', SameText rest' rest ∧ Derives (.type t lower) s rest' := by
  obtain ⟨u, s₁, n, hcore, hpairs, rfl⟩ := exists_coreAt_of_typeAt h
  cases hcore with
  | wildcard hq hbound =>
    have hlt := length_lt_of_eat? hq
    obtain ⟨lower, s₂, hs, hderives, hlower⟩ :=
      exists_derives_of_boundAt (eat?_eq_some_iff.mp hq) hbound
    obtain ⟨rest', hrest, hderives⟩ := hpairs.exists_derives (.core hderives) hs hlower
    exact ⟨lower, rest', hrest, hderives⟩
  | primitive hq hname hkey =>
    obtain ⟨-, hlex, hend⟩ := isName_of_nameAt hname
    rw [← keyword_of_ofKeyword? hkey] at hlex
    obtain ⟨rest', hrest, hderives⟩ :=
      hpairs.exists_derives (.core (.primitive hlex hend)) rfl (by simp)
    exact ⟨false, rest', hrest, hderives⟩
  | raw hq hname hkey ho =>
    obtain ⟨hname, hlex, hend⟩ := isName_of_nameAt hname
    obtain ⟨rest', hrest, hderives⟩ :=
      hpairs.exists_derives (.core (.raw hname hkey hlex hend)) rfl (by simp)
    exact ⟨false, rest', hrest, hderives⟩
  | generic hq hname hkey ho harguments =>
    have hlt := Nat.lt_of_lt_of_le (length_lt_of_eat? ho) hname.length_le
    obtain ⟨hname, hlex, hend⟩ := isName_of_nameAt hname
    obtain ⟨s₃, harguments, hclose⟩ := exists_derives_of_argumentsAt harguments
    obtain ⟨rest', hrest, hderives⟩ := hpairs.exists_derives
      (.core (.generic hname hkey hlex (eat?_eq_some_iff.mp ho) harguments hclose)) rfl (by simp)
    exact ⟨false, rest', hrest, hderives⟩
termination_by 2 * s.length

/-- What is read after a question mark makes a written wildcard of it. -/
theorem exists_derives_of_boundAt {s s₁ rest : List Char} {t : TypeRef} (hq : Lexeme ['?'] s s₁)
    (h : Gives (boundAt s₁) t rest) :
    ∃ lower rest', SameText rest' rest ∧ Derives (.core t lower) s rest' ∧
      (lower = true → eat? '[' rest = none) := by
  cases gives_boundAt_iff.mp h with
  | upper hword hend htype =>
    have hle := hword.length_le
    obtain ⟨lower, rest', hs, hderives⟩ := exists_derives_of_typeAt htype
    obtain ⟨_, _, _, -, hpairs, -⟩ := exists_coreAt_of_typeAt htype
    exact ⟨lower, rest', hs, .upper hq hword hend hderives, fun _ => hpairs.eat?_eq_none⟩
  | lower hword hend htype =>
    have hle := hword.length_le
    obtain ⟨lower, rest', hs, hderives⟩ := exists_derives_of_typeAt htype
    -- No bracket is left behind the bound, so none is lost that the reader would count.
    obtain ⟨_, _, _, -, hpairs, -⟩ := exists_coreAt_of_typeAt htype
    exact ⟨true, rest', hs, .lower hq hword hend hderives, fun _ => hpairs.eat?_eq_none⟩
  | unbounded hupper hlower =>
    have hs : SameText s₁ (s₁.dropWhile isBlank) :=
      (dropWhile_eq_self_of_ends (ends_dropWhile isBlank s₁)).symm
    exact ⟨false, s₁, hs, .unbounded hq, by simp⟩
termination_by 2 * s₁.length + 1

/-- What is read as arguments is a written form of them, with the closing bracket after it. -/
theorem exists_derives_of_argumentsAt {s rest : List Char} {ts : List TypeRef}
    (h : Gives (argumentsAt s) ts rest) :
    ∃ s₁, Derives (.types ts) s s₁ ∧ Lexeme ['>'] s₁ rest := by
  obtain ⟨t, s₁, htype, h⟩ := gives_argumentsAt_iff.mp h
  have hle := htype.length_le
  obtain ⟨lower, s₁', hs, hderives⟩ := exists_derives_of_typeAt htype
  rcases h with ⟨s₂, more, hc, hmore, rfl⟩ | ⟨hc, hclose, rfl⟩
  · have hlt := length_lt_of_eat? hc
    obtain ⟨s₃, hmore, hclose⟩ := exists_derives_of_argumentsAt hmore
    exact ⟨s₃, .more hderives ((eat?_eq_some_iff.mp hc).congr hs.symm) hmore, hclose⟩
  · exact ⟨s₁', .single hderives, (eat?_eq_some_iff.mp hclose).congr hs.symm⟩
termination_by 2 * s.length + 1

end

/-! ### Written forms are read -/

/-- Nothing is next, or a symbol that may follow a type. So the last word of the type is read to
its end and not further. -/
def Closes (s : List Char) : Prop :=
  ∀ c ∈ (s.dropWhile isBlank).head?, c = ',' ∨ c = '>' ∨ c = '['

/-- What blanks and then no character of a class go on with, does not go on with the class. -/
theorem ends_of_ends_dropWhile {p : Char → Bool} {s : List Char}
    (hp : ∀ c, p c = true → isBlank c = false) (h : Ends p (s.dropWhile isBlank)) : Ends p s := by
  cases s with
  | nil => exact h
  | cons c s =>
    intro d hd
    cases hd
    by_cases hc : p c = true
    · exact h c (by simp [hp c hc])
    · simpa using hc

/-- Neither a word nor a name goes on with blanks and a symbol that is no part of one. -/
theorem ends_of_next {s : List Char}
    (h : ∀ c ∈ (s.dropWhile isBlank).head?, isIdentPart c = false ∧ c ≠ '.') :
    Ends isIdentPart s ∧ s.head? ≠ some '.' := by
  constructor
  · exact ends_of_ends_dropWhile (fun _ => isBlank_of_isIdentPart) fun c hc => (h c hc).1
  · have hdot : Ends (· == '.') s := by
      refine ends_of_ends_dropWhile (fun c hc => ?_) fun c hc => ?_
      · rw [eq_of_beq hc]
        rfl
      · simpa using (h c hc).2
    intro hhead
    exact absurd (hdot '.' hhead) (by decide)

/-- The symbols that may follow a type go on with no name. -/
theorem Closes.next {s : List Char} (h : Closes s) :
    ∀ c ∈ (s.dropWhile isBlank).head?, isIdentPart c = false ∧ c ≠ '.' := by
  intro c hc
  rcases h c hc with rfl | rfl | rfl <;> decide

/-- Each of the three symbols closes a type. -/
theorem Lexeme.closes {c : Char} {s rest : List Char} (h : Lexeme [c] s rest)
    (hc : c = ',' ∨ c = '>' ∨ c = '[') : Closes s := by
  unfold Lexeme at h
  simpa [Closes, h] using hc

/-- A symbol that does not follow types is not next where one that does is. -/
theorem Closes.eat?_eq_none {c : Char} {s : List Char} (h : Closes s)
    (hc : c ≠ ',' ∧ c ≠ '>' ∧ c ≠ '[') : eat? c s = none := by
  cases he : eat? c s with
  | none => rfl
  | some rest =>
    have hlex := eat?_eq_some_iff.mp he
    have hor := h c (by rw [hlex]; rfl)
    simp [hc.1, hc.2.1, hc.2.2] at hor

/-- The keywords of primitives are names. -/
theorem isName_keyword (kind : Primitive) : IsName kind.keyword.toList := by
  cases kind <;> exact isName_of_isIdent rfl

/-- A written phrase is read where it stands. A type is read together with the brackets after it,
which are lost after a lower bound. Blanks behind it may be skipped already. -/
def Phrase.IsRead (s rest : List Char) : Phrase → Prop
  | type t lower | core t lower => ∀ n r, Closes rest → PairsAt n rest r →
      ∃ r', SameText r r' ∧ Gives (typeAt s) (if lower then t else arrays n t) r'
  | types ts => ∀ r, Lexeme ['>'] rest r → Gives (argumentsAt s) ts r

/-- A name is read as such in front of the symbol that is next. -/
theorem gives_nameAt_of_next {s rest : List Char} {name : String} (hname : IsName name.toList)
    (h : Lexeme name.toList s rest)
    (hnext : ∀ c ∈ (rest.dropWhile isBlank).head?, isIdentPart c = false ∧ c ≠ '.') :
    eat? '?' s = none ∧ Gives (nameAt s) name rest := by
  obtain ⟨hend, hdot⟩ := ends_of_next hnext
  obtain ⟨c, cs, hcs, hc⟩ := hname.exists_cons
  refine ⟨?_, gives_nameAt hname h hend hdot⟩
  rw [hcs] at h
  refine h.eat?_eq_none ?_
  rintro rfl
  simp [isIdentStart] at hc

/-- Every written phrase is read where it stands. By induction on the derivation; the brackets
behind a type are given to the induction as a number, since a bound reads them too. -/
theorem Derives.isRead {phrase : Phrase} {s rest : List Char} (h : Derives phrase s rest) :
    phrase.IsRead s rest := by
  induction h with
  | core h ih => exact ih
  | @brackets t lower s s₁ s₂ rest h ho hc ih =>
    intro n r hcloses hpairs
    -- The type in front is read together with this pair and those behind it.
    obtain ⟨r', hr, hgives⟩ := ih (n + 1) r (ho.closes (by simp))
      (.pair (eat?_eq_some_iff.mpr ho) (eat?_eq_some_iff.mpr hc) hpairs)
    refine ⟨r', hr, ?_⟩
    cases lower with
    | false => exact hgives
    | true => exact hgives
  | @primitive kind s rest h hend =>
    intro n r hcloses hpairs
    obtain ⟨hq, hname⟩ := gives_nameAt_of_next (isName_keyword kind) h hcloses.next
    have hcore := CoreAt.primitive hq hname (Primitive.ofKeyword?_keyword kind)
    exact ⟨r, rfl, hcore.gives_typeAt hpairs⟩
  | raw hname hkey h hend =>
    intro n r hcloses hpairs
    obtain ⟨hq, hname⟩ := gives_nameAt_of_next hname h hcloses.next
    have hcore := CoreAt.raw hq hname hkey (hcloses.eat?_eq_none (by decide))
    exact ⟨r, rfl, hcore.gives_typeAt hpairs⟩
  | generic hname hkey h ho harguments hc ih =>
    intro n r hcloses hpairs
    obtain ⟨hq, hname⟩ := gives_nameAt_of_next hname h (by rw [ho]; simp [isIdentPart])
    have hcore := CoreAt.generic hq hname hkey (eat?_eq_some_iff.mpr ho) (ih _ hc)
    exact ⟨r, rfl, hcore.gives_typeAt hpairs⟩
  | @unbounded s rest h =>
    intro n r hcloses hpairs
    -- The reader has skipped the blanks behind the question mark when it looks for brackets.
    have hblank : SameText rest (rest.dropWhile isBlank) :=
      (dropWhile_eq_self_of_ends (ends_dropWhile isBlank rest)).symm
    have hword : (rest.dropWhile isBlank).takeWhile isIdentPart = [] := by
      cases hdrop : rest.dropWhile isBlank with
      | nil => rfl
      | cons c cs =>
        have hc := (hcloses.next c (by simp [hdrop])).1
        simp [hc]
    have hbound : BoundAt rest (named objectName) (rest.dropWhile isBlank) :=
      .unbounded (by simp [hword]) (by simp [hword])
    obtain ⟨r', hr, hpairs'⟩ := hpairs.congr hblank
    have hcore := CoreAt.wildcard (eat?_eq_some_iff.mpr h) (gives_boundAt_iff.mpr hbound)
    exact ⟨r', hr, hcore.gives_typeAt hpairs'⟩
  | upper h hword hend hbound ih =>
    intro n r hcloses hpairs
    obtain ⟨r', hr, hgives⟩ := ih n r hcloses hpairs
    -- The bound has taken the brackets, so none are left for the wildcard.
    have hnone : PairsAt 0 r' r' := .zero ((eat?_congr hr).symm.trans hpairs.eat?_eq_none)
    have hcore := CoreAt.wildcard (eat?_eq_some_iff.mpr h)
      (gives_boundAt_iff.mpr (.upper hword hend hgives))
    exact ⟨r', hr, hcore.gives_typeAt hnone⟩
  | lower h hword hend hbound ih =>
    intro n r hcloses hpairs
    obtain ⟨r', hr, hgives⟩ := ih n r hcloses hpairs
    have hnone : PairsAt 0 r' r' := .zero ((eat?_congr hr).symm.trans hpairs.eat?_eq_none)
    have hcore := CoreAt.wildcard (eat?_eq_some_iff.mpr h)
      (gives_boundAt_iff.mpr (.lower hword hend hgives))
    exact ⟨r', hr, hcore.gives_typeAt hnone⟩
  | @single t lower s rest h ih =>
    intro r hclose
    obtain ⟨r', hr, hgives⟩ := ih 0 rest (hclose.closes (by simp))
      (.zero (hclose.eat?_eq_none (by decide)))
    refine gives_argumentsAt_iff.mpr ⟨t, r', ?_, .inr ⟨?_, ?_, rfl⟩⟩
    · simpa [arrays] using hgives
    · rw [← eat?_congr hr]
      exact hclose.eat?_eq_none (by decide)
    · rw [← eat?_congr hr]
      exact eat?_eq_some_iff.mpr hclose
  | @more t lower ts s s₁ s₂ rest h hc hts ih ihs =>
    intro r hclose
    obtain ⟨r', hr, hgives⟩ := ih 0 s₁ (hc.closes (by simp)) (.zero (hc.eat?_eq_none (by decide)))
    refine gives_argumentsAt_iff.mpr ⟨t, r', ?_, .inl ⟨s₂, ts, ?_, ihs r hclose, rfl⟩⟩
    · simpa [arrays] using hgives
    · rw [← eat?_congr hr]
      exact eat?_eq_some_iff.mpr hc

/-! ### The whole text -/

/-- A text is read as a type when a reading of it leaves nothing but blanks. -/
theorem parse_eq_ok {text : String} {t : TypeRef} :
    parse text = .ok t ↔
      ∃ rest, Gives (typeAt text.toList) t rest ∧ rest.dropWhile isBlank = [] := by
  unfold parse
  constructor
  · intro h
    split at h
    · simp at h
    · next r hr =>
      split at h
      · next hrest =>
        cases h
        exact ⟨r.rest, gives_of_eq_ok hr, hrest⟩
      · simp at h
  · rintro ⟨rest, ⟨r, hr, rfl, rfl⟩, hrest⟩
    simp [hr, hrest]

/-- Only written forms of a type are read as it. -/
theorem denotes_of_parse {text : String} {t : TypeRef} (h : parse text = .ok t) :
    Denotes text t := by
  obtain ⟨rest, h, hrest⟩ := parse_eq_ok.mp h
  obtain ⟨lower, rest', hs, hderives⟩ := exists_derives_of_typeAt h
  exact ⟨lower, rest', hderives, List.dropWhile_eq_nil_iff.mp (hs.trans hrest)⟩

/-- All written forms of a type are read as it. -/
theorem Denotes.parse_eq {text : String} {t : TypeRef} (h : Denotes text t) :
    parse text = .ok t := by
  obtain ⟨lower, rest, hderives, hblank⟩ := h
  have hrest : rest.dropWhile isBlank = [] := List.dropWhile_eq_nil_iff.mpr hblank
  have hcloses : Closes rest := by simp [Closes, hrest]
  have hnone : PairsAt 0 rest rest := .zero (by simp [eat?, hrest])
  obtain ⟨r, hr, h⟩ := hderives.isRead 0 rest hcloses hnone
  exact parse_eq_ok.mpr ⟨r, by simpa [arrays] using h, hr.symm.trans hrest⟩

/-- However its brackets are attached, a text denotes one type. All derivations lead to what the
parser reads. -/
theorem Denotes.unique {text : String} {t u : TypeRef} (ht : Denotes text t)
    (hu : Denotes text u) : t = u := by
  have hparse : Except.ok t = Except.ok u := ht.parse_eq.symm.trans hu.parse_eq
  exact Except.ok.inj hparse

/-- A text is read as a type exactly if it is a written form of that type. As a text is read as one
type at most, it is a written form of no other one. -/
theorem parse_eq_ok_iff {text : String} {t : TypeRef} : parse text = .ok t ↔ Denotes text t :=
  ⟨denotes_of_parse, Denotes.parse_eq⟩

end Fixtures.TypeRef
