import DocQuery.Endpoint.Relation
import DocQuery.Proofs.Text.FormEncoding

/-!
# Written Relations

A relation is written as its name, an equals sign, a collection, a colon and a
local field. A colon and a foreign field may follow, and after that a colon and a
cardinality. Blanks around a part do not count, and no part is blank.

Every relation that is written so is read. The reader looks at each further part
on its own, though, and keeps no account of those before it, so that it takes any
number of them in any order. Of several foreign fields the last one counts, and
so does the last of several cardinalities. What is read beyond the notation are
exactly the texts whose further parts are out of order.

The notation is an inductive predicate on texts, with the optional parts as
options, and so is what the reader accepts, with any list of further parts. Both
have the same shape, and the only difference is the condition on the further
parts. So the comparison comes down to one condition, `Relation.InOrder`, and to
what the last foreign field and the last cardinality are in a list that meets
it.

## Main definitions

* `Relation.Notated`: The notation of relations.
* `Relation.Accepted`: The texts of relations with any further parts.
* `Relation.furtherParts`: The parts of a text after the local field.
* `Relation.InOrder`: Further parts that the notation allows.

## Theorems

* `Text.pieces_intercalate`, `intercalate_pieces`: Pieces with separators between
  them.
* `Relation.readTail?_eq_some_iff`: What further parts mean.
* `Relation.parse?_eq_some_iff`: Which texts are read.
* `Relation.parse?_recognizes`: How they compare with the notation.
* `Relation.parse?_misspelled`: A cardinality that is taken for a field.
-/

namespace DocQuery

namespace Text

/-- Pieces with separators between them are found again. -/
theorem pieces_intercalate {α : Type} (sep : α → Bool) (c : α) (hc : sep c = true)
    (parts : List (List α)) (hne : parts ≠ [])
    (h : ∀ part ∈ parts, ∀ x ∈ part, sep x = false) :
    pieces sep ([c].intercalate parts) = parts := by
  induction parts with
  | nil => exact absurd rfl hne
  | cons part parts ih =>
      rw [List.forall_mem_cons] at h
      rcases parts with _ | ⟨next, parts⟩
      · rw [List.intercalate_singleton]
        exact pieces_of_not_sep sep part h.1
      · rw [List.intercalate_cons_cons, List.append_assoc, List.singleton_append,
          pieces_append sep _ _ c hc, pieces_of_not_sep sep part h.1,
          ih (List.cons_ne_nil next parts) h.2]
        rfl

/-- The pieces of a text with separators between them are the text. -/
theorem intercalate_pieces (c : Char) (s : List Char) :
    [c].intercalate (pieces (· == c) s) = s := by
  induction s with
  | nil => rfl
  | cons x s ih =>
      rcases hpieces : pieces (· == c) s with _ | ⟨p, ps⟩
      · exact absurd hpieces (pieces_ne_nil _ s)
      rw [hpieces] at ih
      rw [pieces, hpieces]
      by_cases hx : (x == c) = true
      · rw [if_pos hx, List.intercalate_cons_cons, ih, beq_iff_eq.mp hx]
        rfl
      · rw [if_neg hx, ← ih]
        -- The first piece gets one more character, and nothing else changes.
        rcases ps with _ | ⟨q, ps⟩
        · simp only [List.intercalate_singleton]
        · simp only [List.intercalate_cons_cons, List.cons_append]

end Text

namespace Relation

/-- Is this one of the two cardinalities? -/
def isCardinality (part : List Char) : Bool :=
  part == "one".toList || part == "many".toList

/-- The foreign field after further parts: the last one among them. -/
def foreignAfter (before : String) (parts : List (List Char)) : String :=
  ((parts.filter fun part => !isCardinality part).getLast?.map String.ofList).getD before

/-- Is there one document at most, after further parts? The last cardinality
    among them counts. -/
def singleAfter (before : Bool) (parts : List (List Char)) : Bool :=
  ((parts.filter isCardinality).getLast?.map (· == "one".toList)).getD before

/-- A text that can stand between colons. -/
def IsPart (part : List Char) : Prop :=
  ':' ∉ part ∧ Text.trim part ≠ []

/-- A part as it is read. -/
def trimmed (part : List Char) : String :=
  String.ofList (Text.trim part)

/-- A name and parts as a text. -/
def spell (name : List Char) (parts : List (List Char)) : List Char :=
  name ++ '=' :: [':'].intercalate parts

/-- The notation of relations: a name, an equals sign, a collection and a local
    field, then a foreign field if there is one, and then a cardinality if there is
    one. -/
inductive Notated : List Char → Relation → Prop
  | written (name collection localField : List Char) (foreign cardinality : Option (List Char))
      (hname : '=' ∉ name ∧ Text.trim name ≠ []) (hcollection : IsPart collection)
      (hlocal : IsPart localField)
      (hforeign : ∀ part ∈ foreign, IsPart part ∧
        Text.trim part ≠ "one".toList ∧ Text.trim part ≠ "many".toList)
      (hcardinality : ∀ part ∈ cardinality, ':' ∉ part ∧
        (Text.trim part = "one".toList ∨ Text.trim part = "many".toList)) :
      Notated (spell name ([collection, localField] ++ foreign.toList ++ cardinality.toList))
        { name := trimmed name
          collection := trimmed collection
          localField := trimmed localField
          foreignField := (foreign.map trimmed).getD "_id"
          single := cardinality.map Text.trim == some "one".toList }

/-- The texts of relations with any further parts. -/
inductive Accepted (more : List (List Char)) : List Char → Relation → Prop
  | written (name collection localField : List Char) (hname : '=' ∉ name ∧ Text.trim name ≠ [])
      (hparts : ∀ part ∈ collection :: localField :: more, IsPart part) :
      Accepted more (spell name (collection :: localField :: more))
        { name := trimmed name
          collection := trimmed collection
          localField := trimmed localField
          foreignField := foreignAfter "_id" (more.map Text.trim)
          single := singleAfter false (more.map Text.trim) }

/-- The parts of a text after the local field. -/
def furtherParts (s : List Char) : List (List Char) :=
  ((Text.cut? (· == '=') s).map fun halves => (Text.pieces (· == ':') halves.2).drop 2).getD []

/-- Are there a foreign field and a cardinality at most, in this order? -/
def InOrder (more : List (List Char)) : Prop :=
  ∃ foreign cardinality : Option (List Char), more = foreign.toList ++ cardinality.toList ∧
    (∀ part ∈ foreign, isCardinality (Text.trim part) = false) ∧
    ∀ part ∈ cardinality, isCardinality (Text.trim part) = true

theorem isCardinality_iff (part : List Char) :
    isCardinality part = true ↔ part = "one".toList ∨ part = "many".toList := by
  unfold isCardinality
  rw [Bool.or_eq_true, beq_iff_eq, beq_iff_eq]

/-- A foreign field counts unless there is another one behind it. -/
theorem foreignAfter_cons (before : String) (part : List Char) (parts : List (List Char)) :
    foreignAfter before (part :: parts) =
      foreignAfter (if isCardinality part then before else String.ofList part) parts := by
  unfold foreignAfter
  by_cases h : isCardinality part = true
  · rw [List.filter_cons_of_neg (by simp [h]), if_pos h]
  · rw [List.filter_cons_of_pos (by simp [h]), if_neg h, List.getLast?_cons]
    rcases (parts.filter fun part => !isCardinality part).getLast? with _ | last
    · rfl
    · rfl

/-- A cardinality counts unless there is another one behind it. -/
theorem singleAfter_cons (before : Bool) (part : List Char) (parts : List (List Char)) :
    singleAfter before (part :: parts) =
      singleAfter (if isCardinality part then part == "one".toList else before) parts := by
  unfold singleAfter
  by_cases h : isCardinality part = true
  · rw [List.filter_cons_of_pos h, if_pos h, List.getLast?_cons]
    rcases (parts.filter isCardinality).getLast? with _ | last
    · rfl
    · rfl
  · rw [List.filter_cons_of_neg h, if_neg h]

/-- Further parts are read if none of them is empty. -/
theorem readTail?_eq_some_iff (r r' : Relation) (parts : List (List Char)) :
    readTail? r parts = some r' ↔ (∀ part ∈ parts, part ≠ []) ∧
      { r with
        foreignField := foreignAfter r.foreignField parts
        single := singleAfter r.single parts } = r' := by
  induction parts generalizing r with
  | nil => simp [readTail?, foreignAfter, singleAfter]
  | cons part parts ih =>
      rw [readTail?, List.forall_mem_cons, foreignAfter_cons, singleAfter_cons]
      by_cases hnil : part = []
      · rw [if_pos hnil]
        exact iff_of_false nofun fun h => h.1.1 hnil
      rw [if_neg hnil, and_iff_right hnil]
      -- A part overwrites what it stands for, and those behind it may do so again.
      by_cases hone : part = "one".toList
      · rw [if_pos hone, ih, if_pos ((isCardinality_iff part).mpr (Or.inl hone)),
          if_pos ((isCardinality_iff part).mpr (Or.inl hone)), beq_iff_eq.mpr hone]
      · rw [if_neg hone]
        by_cases hmany : part = "many".toList
        · rw [if_pos hmany, ih, if_pos ((isCardinality_iff part).mpr (Or.inr hmany)),
            if_pos ((isCardinality_iff part).mpr (Or.inr hmany)), beq_eq_false_iff_ne.mpr hone]
        · have hfield : ¬ isCardinality part = true := by
            rw [isCardinality_iff, not_or]
            exact ⟨hone, hmany⟩
          rw [if_neg hmany, ih, if_neg hfield, if_neg hfield]

/-- A text is cut at the first equals sign, and the rest at its colons. -/
theorem cut?_spell (name : List Char) (parts : List (List Char)) (h : '=' ∉ name) :
    Text.cut? (· == '=') (spell name parts) = some (name, [':'].intercalate parts) := by
  refine Text.cut?_append _ _ _ '=' (beq_self_eq_true '=') fun x hx => ?_
  rw [beq_eq_false_iff_ne]
  rintro rfl
  exact h hx

theorem pieces_colon (parts : List (List Char)) (hne : parts ≠ [])
    (h : ∀ part ∈ parts, ':' ∉ part) :
    Text.pieces (· == ':') ([':'].intercalate parts) = parts := by
  refine Text.pieces_intercalate (· == ':') ':' rfl parts hne fun part hpart x hx => ?_
  rw [beq_eq_false_iff_ne]
  rintro rfl
  exact h part hpart hx

theorem furtherParts_of_accepted (more : List (List Char)) (s : List Char) (r : Relation)
    (h : Accepted more s r) : furtherParts s = more := by
  cases h with
  | written name collection localField hname hparts =>
      have hpieces := pieces_colon (collection :: localField :: more) (List.cons_ne_nil _ _)
        fun part hpart => (hparts part hpart).1
      rw [furtherParts, cut?_spell name _ hname.1, Option.map_some, hpieces]
      rfl

/-- What is read from a name and parts. -/
theorem parse?_spell (name collection localField : List Char) (more : List (List Char))
    (r : Relation) (hname : '=' ∉ name)
    (hparts : ∀ part ∈ collection :: localField :: more, ':' ∉ part) :
    parse? (spell name (collection :: localField :: more)) = some r ↔
      Text.trim name ≠ [] ∧
        (∀ part ∈ collection :: localField :: more, Text.trim part ≠ []) ∧
        { name := trimmed name
          collection := trimmed collection
          localField := trimmed localField
          foreignField := foreignAfter "_id" (more.map Text.trim)
          single := singleAfter false (more.map Text.trim) } = r := by
  have hpieces := pieces_colon (collection :: localField :: more) (List.cons_ne_nil _ _) hparts
  unfold parse?
  simp only [cut?_spell name _ hname, Option.bind_eq_bind, Option.bind_some, hpieces,
    List.map_cons, List.forall_mem_cons]
  split
  · -- An empty name, collection or local field is refused before any further part is looked
    -- at.
    rename_i hempty
    refine iff_of_false nofun ?_
    rintro ⟨hproper, ⟨hcollection, hlocal, -⟩, -⟩
    simp only [Bool.or_eq_true, List.isEmpty_iff] at hempty
    rcases hempty with (hempty | hempty) | hempty
    · exact hproper hempty
    · exact hcollection hempty
    · exact hlocal hempty
  · rename_i hfull
    simp only [Bool.or_eq_true, List.isEmpty_iff, not_or] at hfull
    rw [readTail?_eq_some_iff, List.forall_mem_map, and_iff_right hfull.1.1,
      and_iff_right hfull.1.2, and_iff_right hfull.2]
    rfl

/-- What is read has a name and two parts at least. -/
theorem exists_spell_of_parse? (s : List Char) (r : Relation) (h : parse? s = some r) :
    ∃ name collection localField more, s = spell name (collection :: localField :: more) ∧
      '=' ∉ name ∧ ∀ part ∈ collection :: localField :: more, ':' ∉ part := by
  unfold parse? at h
  rcases hcut : Text.cut? (· == '=') s with _ | ⟨name, target⟩
  · rw [hcut] at h
    cases h
  rcases Text.append_of_cut? _ s name target hcut with ⟨c, hc, hs, hname⟩
  have hparts : ∀ part ∈ Text.pieces (· == ':') target, ':' ∉ part := by
    intro part hpart hmem
    have hsep := Text.not_sep_of_mem_pieces _ _ part hpart ':' hmem
    rw [beq_self_eq_true] at hsep
    cases hsep
  have htarget := Text.intercalate_pieces ':' target
  rw [hcut] at h
  simp only [Option.bind_eq_bind, Option.bind_some] at h
  generalize Text.pieces (· == ':') target = parts at hparts htarget h
  -- Fewer than two parts are refused.
  rcases parts with _ | ⟨collection, _ | ⟨localField, more⟩⟩
  · cases h
  · cases h
  · refine ⟨name, collection, localField, more, ?_, ?_, hparts⟩
    · rw [spell, htarget, hs, beq_iff_eq.mp hc]
    · intro hmem
      have hsep := hname '=' hmem
      rw [beq_self_eq_true] at hsep
      cases hsep

/-- The texts that are read, and what they are read as. -/
theorem parse?_eq_some_iff (s : List Char) (r : Relation) :
    parse? s = some r ↔ Accepted (furtherParts s) s r := by
  constructor
  · intro h
    rcases exists_spell_of_parse? s r h with
      ⟨name, collection, localField, more, rfl, hname, hparts⟩
    rcases (parse?_spell name collection localField more r hname hparts).mp h with
      ⟨hproper, hfull, rfl⟩
    have haccepted : Accepted more _ _ := .written name collection localField ⟨hname, hproper⟩
      fun part hpart => ⟨hparts part hpart, hfull part hpart⟩
    rw [furtherParts_of_accepted more _ _ haccepted]
    exact haccepted
  · intro h
    generalize furtherParts s = more at h
    cases h with
    | written name collection localField hname hparts =>
        refine (parse?_spell name collection localField more _ hname.1
          fun part hpart => (hparts part hpart).1).mpr ⟨hname.2, ?_, rfl⟩
        exact fun part hpart => (hparts part hpart).2

/-- A foreign field and a cardinality, in this order, mean what they say. -/
theorem meaning_of_inOrder (foreign cardinality : Option (List Char))
    (hforeign : ∀ part ∈ foreign, isCardinality (Text.trim part) = false)
    (hcardinality : ∀ part ∈ cardinality, isCardinality (Text.trim part) = true) :
    foreignAfter "_id" ((foreign.toList ++ cardinality.toList).map Text.trim) =
        (foreign.map trimmed).getD "_id" ∧
      singleAfter false ((foreign.toList ++ cardinality.toList).map Text.trim) =
        (cardinality.map Text.trim == some "one".toList) := by
  unfold foreignAfter singleAfter
  rcases foreign with _ | field
  · rcases cardinality with _ | word
    · exact ⟨rfl, rfl⟩
    · simp [hcardinality word rfl]
  · rcases cardinality with _ | word
    · simp [hforeign field rfl, trimmed]
    · simp [hforeign field rfl, hcardinality word rfl, trimmed]

/-- The notation is what is accepted with the further parts in order. -/
theorem notated_iff (s : List Char) (r : Relation) :
    Notated s r ↔ ∃ more, InOrder more ∧ Accepted more s r := by
  constructor
  · intro h
    cases h with
    | written name collection localField foreign cardinality hname hcollection hlocal hforeign
        hcardinality =>
        have hfield : ∀ part ∈ foreign, isCardinality (Text.trim part) = false := by
          intro part hpart
          rw [← Bool.not_eq_true, isCardinality_iff, not_or]
          exact (hforeign part hpart).2
        have hword : ∀ part ∈ cardinality, isCardinality (Text.trim part) = true := by
          intro part hpart
          exact (isCardinality_iff _).mpr (hcardinality part hpart).2
        have hparts : ∀ part ∈ collection :: localField :: (foreign.toList ++ cardinality.toList),
            IsPart part := by
          simp only [List.forall_mem_cons, List.forall_mem_append, Option.mem_toList]
          refine ⟨hcollection, hlocal, fun part hpart => (hforeign part hpart).1, ?_⟩
          intro part hpart
          refine ⟨(hcardinality part hpart).1, ?_⟩
          rcases (hcardinality part hpart).2 with heq | heq
          · rw [heq]
            decide
          · rw [heq]
            decide
        -- In order, the last of each kind is the only one.
        have hmeaning := meaning_of_inOrder foreign cardinality hfield hword
        have haccepted := Accepted.written name collection localField hname hparts
        rw [hmeaning.1, hmeaning.2] at haccepted
        exact ⟨_, ⟨foreign, cardinality, rfl, hfield, hword⟩, haccepted⟩
  · rintro ⟨more, ⟨foreign, cardinality, rfl, hfield, hword⟩, haccepted⟩
    cases haccepted with
    | written name collection localField hname hparts =>
        simp only [List.forall_mem_cons, List.forall_mem_append, Option.mem_toList] at hparts
        have hmeaning := meaning_of_inOrder foreign cardinality hfield hword
        rw [hmeaning.1, hmeaning.2]
        refine Notated.written name collection localField foreign cardinality hname hparts.1
          hparts.2.1 ?_ ?_
        · intro part hpart
          refine ⟨hparts.2.2.1 part hpart, not_or.mp ?_⟩
          rw [← isCardinality_iff, hfield part hpart]
          exact Bool.false_ne_true
        · intro part hpart
          exact ⟨(hparts.2.2.2 part hpart).1, (isCardinality_iff _).mp (hword part hpart)⟩

/-- What is read as a relation, compared with the notation. Every text of the
    notation is read as it should be. What is read beyond it are the texts whose
    further parts are out of order. -/
theorem parse?_recognizes (s : List Char) (r : Relation) :
    (parse? s = some r ↔ Accepted (furtherParts s) s r) ∧
      (Notated s r ↔ parse? s = some r ∧ InOrder (furtherParts s)) := by
  refine ⟨parse?_eq_some_iff s r, ?_⟩
  rw [notated_iff, parse?_eq_some_iff]
  constructor
  · rintro ⟨more, horder, haccepted⟩
    rw [furtherParts_of_accepted more s r haccepted]
    exact ⟨haccepted, horder⟩
  · rintro ⟨haccepted, horder⟩
    exact ⟨_, horder, haccepted⟩

/-- A misspelt cardinality is read as one more foreign field, and takes the place
    of the one that is meant. No relation is written so. -/
theorem parse?_misspelled :
    parse? "posts=posts:_id:authorId:mnay".toList =
        some { name := "posts", collection := "posts", localField := "_id",
               foreignField := "mnay" } ∧
      ∀ r, ¬ Notated "posts=posts:_id:authorId:mnay".toList r := by
  refine ⟨rfl, ?_⟩
  intro r hnotated
  rcases (notated_iff _ r).mp hnotated with ⟨more, horder, haccepted⟩
  rw [← furtherParts_of_accepted more _ r haccepted] at horder
  have hparts : furtherParts "posts=posts:_id:authorId:mnay".toList =
      ["authorId".toList, "mnay".toList] :=
    rfl
  rw [hparts] at horder
  rcases horder with ⟨foreign, cardinality, heq, -, hword⟩
  -- Of two further parts the second one has to be a cardinality.
  rcases foreign with _ | field
  · rcases cardinality with _ | word
    · cases heq
    · cases heq
  · rcases cardinality with _ | word
    · cases heq
    · cases heq
      exact absurd (hword _ rfl) (by decide)

end Relation

end DocQuery
