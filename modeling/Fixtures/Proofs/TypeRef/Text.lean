import Fixtures.Proofs.TypeRef.Parser

/-!
# `Fixtures.Proofs.TypeRef.Text`: types and their texts

What the parser returns can be written down: no type parameter occurs in it, and what it names is
a name and no keyword (`IsWritten`). Such a type is read back from its own text.

The text is one of the written forms of the type, so it is enough to derive it
(`derives_toText`). The texts of the parts are derived in front of what follows them, which begins
with a bracket or a comma and so ends the last word of the part.

Blanks around a text belong to no type, so a trimmed text is read as the text itself
(`parse_of_parse_trim`).
-/

set_option autoImplicit false

namespace Fixtures.TypeRef

open Text

/-- The type has a text of its own: it is free of type parameters, and every name in it is a name
that is no keyword. -/
structure IsWritten (t : TypeRef) : Prop where
  noParameter : t.containsParameter = false
  names : ∀ name ∈ t.declaredNames, IsName name.toList ∧ Primitive.ofKeyword? name = none

theorem isWritten_primitive (kind : Primitive) : IsWritten (primitive kind) :=
  ⟨rfl, by simp [declaredNames]⟩

/-- An array has a text when its component has one, and the text of a declared type needs those of
all arguments. -/
theorem isWritten_array_iff {t : TypeRef} : IsWritten (array t) ↔ IsWritten t :=
  ⟨fun h => ⟨h.noParameter, h.names⟩, fun h => ⟨h.noParameter, h.names⟩⟩

theorem isWritten_declared_iff {name : String} {arguments : List TypeRef} :
    IsWritten (declared name arguments) ↔
      (IsName name.toList ∧ Primitive.ofKeyword? name = none) ∧
        ∀ t ∈ arguments, IsWritten t := by
  constructor
  · rintro ⟨hparameter, hnames⟩
    simp only [containsParameter, anyContainsParameter_eq, List.any_eq_false] at hparameter
    simp only [declaredNames, allDeclaredNames_eq, List.mem_cons, List.mem_flatMap] at hnames
    refine ⟨hnames name (.inl rfl), fun t ht => ⟨?_, ?_⟩⟩
    · simpa using hparameter t ht
    · intro n hn
      exact hnames n (.inr ⟨t, ht, hn⟩)
  · rintro ⟨hname, harguments⟩
    refine ⟨?_, ?_⟩
    · simp only [containsParameter, anyContainsParameter_eq, List.any_eq_false]
      intro t ht
      simp [(harguments t ht).noParameter]
    · simp only [declaredNames, allDeclaredNames_eq, List.mem_cons, List.mem_flatMap]
      rintro n (rfl | ⟨t, ht, hn⟩)
      · exact hname
      · exact (harguments t ht).names n hn

/-! ### What is read has a text -/

/-- The root object type has one. -/
theorem isWritten_object : IsWritten (named objectName) := by
  refine isWritten_declared_iff.mpr ⟨⟨?_, by decide⟩, by simp⟩
  have hobject : IsName "Object".toList := isName_of_isIdent rfl
  have hlang : IsName ("lang".toList ++ '.' :: "Object".toList) := hobject.after rfl
  exact @IsName.after "java" _ hlang rfl

/-- All types of a phrase have one. -/
def Phrase.IsWritten : Phrase → Prop
  | type t _ | core t _ => t.IsWritten
  | types ts => ∀ t ∈ ts, t.IsWritten

/-- A phrase stands only for types with texts. By induction on the derivation, rule by rule. -/
theorem Derives.isWritten {phrase : Phrase} {s rest : List Char} (h : Derives phrase s rest) :
    phrase.IsWritten := by
  induction h with
  | core h ih => exact ih
  | @brackets t lower s s₁ s₂ rest h ho hc ih =>
    show TypeRef.IsWritten (bracketed t lower)
    unfold bracketed
    split
    · exact ih
    · exact isWritten_array_iff.mpr ih
  | primitive => exact isWritten_primitive _
  | raw hname hkey => exact isWritten_declared_iff.mpr ⟨⟨hname, hkey⟩, by simp⟩
  | generic hname hkey h ho harguments hc ih => exact isWritten_declared_iff.mpr ⟨⟨hname, hkey⟩, ih⟩
  | unbounded => exact isWritten_object
  | upper h hword hend hbound ih => exact ih
  | lower => exact isWritten_object
  | single h ih =>
    intro t ht
    rw [List.mem_singleton.mp ht]
    exact ih
  | more h hc hts ih ihs =>
    intro t ht
    rcases List.mem_cons.mp ht with rfl | ht
    · exact ih
    · exact ihs t ht

/-! ### The text is read back -/

/-- Blanks in front of a phrase do not matter, since every phrase begins with a token. -/
theorem Derives.congr {phrase : Phrase} {s rest : List Char} (h : Derives phrase s rest) :
    ∀ {s' : List Char}, SameText s s' → Derives phrase s' rest := by
  induction h with
  | core h ih => exact fun hs => .core (ih hs)
  | brackets h ho hc ih => exact fun hs => .brackets (ih hs) ho hc
  | primitive h hend => exact fun hs => .primitive (h.congr hs) hend
  | raw hname hkey h hend => exact fun hs => .raw hname hkey (h.congr hs) hend
  | generic hname hkey h ho harguments hc =>
    exact fun hs => .generic hname hkey (h.congr hs) ho harguments hc
  | unbounded h => exact fun hs => .unbounded (h.congr hs)
  | upper h hword hend hbound => exact fun hs => .upper (h.congr hs) hword hend hbound
  | lower h hword hend hbound => exact fun hs => .lower (h.congr hs) hword hend hbound
  | single h ih => exact fun hs => .single (ih hs)
  | more h hc hts ih => exact fun hs => .more (ih hs) hc hts

/-- A word without a blank at its front is the next token where it stands. -/
theorem lexeme_cons {c : Char} {cs rest : List Char} (hc : isBlank c = false) :
    Lexeme (c :: cs) (c :: cs ++ rest) rest := by
  simp [Lexeme, hc]

/-- A name is the next token where it stands. -/
theorem IsName.lexeme {name : List Char} (h : IsName name) (rest : List Char) :
    Lexeme name (name ++ rest) rest := by
  obtain ⟨c, cs, rfl, hc⟩ := h.exists_cons
  exact lexeme_cons (isBlank_of_isIdentPart (isIdentPart_of_isIdentStart c hc))

/-- The text of further arguments and the closing bracket end a word, because it begins with a
comma or is the bracket. -/
theorem ends_argumentsText (ts : List TypeRef) (rest : List Char) :
    Ends isIdentPart ((argumentsText ts).toList ++ '>' :: rest) := by
  intro c hc
  cases ts with
  | nil =>
    have : c = '>' := by simpa [argumentsText, eq_comm] using hc
    rw [this]
    rfl
  | cons t ts =>
    have : c = ',' := by simpa [argumentsText, eq_comm] using hc
    rw [this]
    rfl

mutual

/-- The text of a type is a written form of it. What follows has to end a word, so that a name at
the end of the text is read as a whole. -/
theorem derives_toText : ∀ {t : TypeRef}, IsWritten t → ∀ rest : List Char,
    Ends isIdentPart rest → Derives (.type t false) (t.toText.toList ++ rest) rest
  | primitive kind, _, rest, hend => by
    exact .core (.primitive ((isName_keyword kind).lexeme rest) hend)
  | declared name [], h, rest, hend => by
    obtain ⟨⟨hname, hkey⟩, -⟩ := isWritten_declared_iff.mp h
    rw [toText]
    exact .core (.raw hname hkey (hname.lexeme rest) hend)
  | declared name (t :: ts), h, rest, hend => by
    obtain ⟨⟨hname, hkey⟩, harguments⟩ := isWritten_declared_iff.mp h
    have ht := derives_toText (harguments t (by simp)) _ (ends_argumentsText ts rest)
    have hts := derives_argumentsText (fun u hu => harguments u (by simp [hu])) ht
    have htext : (toText (declared name (t :: ts))).toList ++ rest = name.toList ++
        '<' :: (t.toText.toList ++ ((argumentsText ts).toList ++ '>' :: rest)) := by
      simp [toText]
    rw [htext]
    exact .core (.generic hname hkey (hname.lexeme _) (lexeme_cons rfl) hts (lexeme_cons rfl))
  | array t, h, rest, hend => by
    have ht := derives_toText (isWritten_array_iff.mp h) ('[' :: ']' :: rest)
      (by simp [Ends, isIdentPart])
    have htext : (toText (array t)).toList ++ rest = t.toText.toList ++ '[' :: ']' :: rest := by
      simp [toText]
    rw [htext]
    exact .brackets ht (lexeme_cons rfl) (lexeme_cons rfl)
  | parameter name, h, _, _ => by
    cases h.noParameter

/-- The first of some arguments and the text of the others are a written form of all. The first one
is derived already, in front of the others. -/
theorem derives_argumentsText : ∀ {ts : List TypeRef}, (∀ t ∈ ts, IsWritten t) →
    ∀ {t : TypeRef} {s rest : List Char},
      Derives (.type t false) s ((argumentsText ts).toList ++ '>' :: rest) →
      Derives (.types (t :: ts)) s ('>' :: rest)
  | [], _, _, _, _, h => .single h
  | u :: us, hwritten, t, s, rest, h => by
    have hu := derives_toText (hwritten u (by simp)) _ (ends_argumentsText us rest)
    have hus := derives_argumentsText (fun v hv => hwritten v (by simp [hv])) hu
    have htext : (argumentsText (u :: us)).toList ++ '>' :: rest =
        ',' :: ' ' :: (u.toText.toList ++ ((argumentsText us).toList ++ '>' :: rest)) := by
      simp [argumentsText]
    rw [htext] at h
    -- The blank after the comma is none of the argument's own.
    exact .more h (lexeme_cons rfl) (hus.congr (by simp [SameText, isBlank]))

end

/-- The parser returns only types that have a text, and returns each of them for its text. So the
text of a type is one of its written forms, and a type that was read is kept when it is written and
read again. -/
theorem isWritten_of_parse_and_parse_toText :
    (∀ text t, parse text = .ok t → IsWritten t) ∧ ∀ t, IsWritten t → parse t.toText = .ok t := by
  constructor
  · intro text t h
    obtain ⟨lower, rest, hderives, -⟩ := denotes_of_parse h
    exact hderives.isWritten
  · intro t h
    have hderives := derives_toText h [] (by simp [Ends])
    rw [List.append_nil] at hderives
    exact Denotes.parse_eq ⟨false, [], hderives, by simp⟩

/-- The type `Map<java.lang.Object, int[]>[]`, whose parts are of every kind, is read back. -/
theorem parse_toText_nested :
    IsWritten (array (declared "Map" [named objectName, array (primitive .int)])) ∧
      parse (array (declared "Map" [named objectName, array (primitive .int)])).toText =
        .ok (array (declared "Map" [named objectName, array (primitive .int)])) := by
  have hmap : IsName "Map".toList := isName_of_isIdent rfl
  have ht : IsWritten (array (declared "Map" [named objectName, array (primitive .int)])) := by
    refine isWritten_array_iff.mpr (isWritten_declared_iff.mpr ⟨⟨hmap, by decide⟩, ?_⟩)
    intro u hu
    rcases List.mem_cons.mp hu with rfl | hu
    · exact isWritten_object
    · rw [List.mem_singleton.mp hu]
      exact isWritten_array_iff.mpr (isWritten_primitive .int)
  obtain ⟨hread, hparse⟩ := isWritten_of_parse_and_parse_toText
  exact ⟨hread _ _ (hparse _ ht), hparse _ ht⟩

/-! ### Blanks around a text -/

/-- A name has a character. -/
theorem IsName.ne_nil {name : List Char} (h : IsName name) : name ≠ [] := by
  obtain ⟨c, cs, rfl, -⟩ := h.exists_cons
  exact List.cons_ne_nil c cs

/-- A token is found in front of a longer rest, too. An empty word would be found in front of its
blanks, so it is excluded. -/
theorem Lexeme.append {word s rest : List Char} (h : Lexeme word s rest) (hword : word ≠ [])
    (more : List Char) : Lexeme word (s ++ more) (rest ++ more) := by
  unfold Lexeme at h ⊢
  rw [List.dropWhile_append, h]
  simp [hword]

/-- What ends a word does so with blanks behind it. -/
theorem ends_append {rest blanks : List Char} (h : Ends isIdentPart rest)
    (hblanks : ∀ c ∈ blanks, isBlank c = true) : Ends isIdentPart (rest ++ blanks) := by
  intro c hc
  cases rest with
  | nil =>
    -- A blank goes on with no word.
    rw [← Bool.not_eq_true]
    intro hpart
    have hblank := hblanks c (List.mem_of_head? hc)
    rw [isBlank_of_isIdentPart hpart] at hblank
    cases hblank
  | cons d rest => exact h c hc

/-- Blanks at the end of the rest do not matter. Each rule only asks where a word ends, and a blank
ends every word. -/
theorem Derives.append {phrase : Phrase} {s rest blanks : List Char} (h : Derives phrase s rest)
    (hblanks : ∀ c ∈ blanks, isBlank c = true) :
    Derives phrase (s ++ blanks) (rest ++ blanks) := by
  -- A symbol is one character, so it is found in front of what is longer.
  have symbol : ∀ {c : Char} {s rest : List Char}, Lexeme [c] s rest →
      Lexeme [c] (s ++ blanks) (rest ++ blanks) :=
    fun h => h.append (List.cons_ne_nil _ _) blanks
  induction h with
  | core h ih => exact .core ih
  | brackets h ho hc ih => exact .brackets ih (symbol ho) (symbol hc)
  | @primitive kind s rest h hend =>
    exact .primitive (h.append (isName_keyword kind).ne_nil blanks) (ends_append hend hblanks)
  | raw hname hkey h hend =>
    exact .raw hname hkey (h.append hname.ne_nil blanks) (ends_append hend hblanks)
  | generic hname hkey h ho harguments hc ih =>
    exact .generic hname hkey (h.append hname.ne_nil blanks) (symbol ho) ih (symbol hc)
  | unbounded h => exact .unbounded (symbol h)
  | upper h hword hend hbound ih =>
    exact .upper (symbol h) (hword.append (by decide) blanks) (ends_append hend hblanks) ih
  | lower h hword hend hbound ih =>
    exact .lower (symbol h) (hword.append (by decide) blanks) (ends_append hend hblanks) ih
  | single h ih => exact .single ih
  | more h hc hts ih ihs => exact .more ih (symbol hc) ihs

/-- A text is read as the type that its trimmed text is read as. The blanks at its front belong to
the first token, and those at its end to the rest. -/
theorem parse_of_parse_trim {text : String} {t : TypeRef} (h : parse (trim text) = .ok t) :
    parse text = .ok t := by
  obtain ⟨before, after, htext, hbefore, hafter⟩ := exists_toList_eq_trim text
  obtain ⟨lower, rest, hderives, hrest⟩ := denotes_of_parse h
  refine Denotes.parse_eq ⟨lower, rest ++ after, ?_, ?_⟩
  · rw [htext, List.append_assoc]
    refine (hderives.append hafter).congr ?_
    rw [SameText, List.dropWhile_append_of_pos hbefore]
  · intro c hc
    rcases List.mem_append.mp hc with hc | hc
    · exact hrest c hc
    · exact hafter c hc

end Fixtures.TypeRef
