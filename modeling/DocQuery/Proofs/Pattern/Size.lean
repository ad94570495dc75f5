import DocQuery.Proofs.Pattern.Quote
import DocQuery.Proofs.Pattern.Space

/-!
# The Size of Quoted Texts

How long a text may be before it is too large to be a pattern. The automaton for
a text whose case does not matter has a part for each character, and the parts
stand in a row. So what they take adds up, and the text fits exactly if the sum
stays within the limit, for each of the two automata (`fitsOn_letters`).

The normal form of the row puts characters together that are themselves only.
Nothing changes by that, since a text takes what its characters take, so a row
may be measured one character at a time (`Form.Measures.attach`).

What a character takes is known for ASCII. Most characters are themselves only
and take one state. A letter has a state for its two cases and one for what comes
next. The letters k and s are of three characters each, one of which is not in
ASCII and has several bytes: they take most. Outside ASCII a character can take
more or less than that, and for a text with such characters the sum has to be
computed.

The condition is the engine's own, so where it lies has been found out and not
chosen: the numbers here are those of states and links in the two automata,
counted as `Draft.addSet?` counts them. They are proved for each character that
ASCII has. The sums are then a matter of arithmetic, and the bound of
`fits_of_length_le` is the best there is for texts of ASCII, as a run of the
letter k shows.

## Main definitions

* `Form.Measures`: The space of a character or a text of a row.
* `letter`, `letters`: The forms of characters whose case does not matter.
* `frontSpace`, `backSpace`: The space for a character of ASCII.

## Theorems

* `form_termOf`: The normal form of a text is its characters in a row.
* `fitsOn_letters`: A row of characters fits if their spaces add up to little.
* `fits_iff_of_ascii`: The same for a text of ASCII and both automata.
* `fits_of_length_le`, `fits_replicate_iff`: How long such a text may be.
-/

namespace DocQuery

namespace Pattern

namespace Form

/-- A text or a set takes a space in the automaton that reads in a direction. -/
inductive Measures (backward : Bool) : Form → Nat → Prop
  | text (s : List Char) :
      Measures backward (text s) ((Text.Utf8.encode s).length * Draft.stateSpace)
  | set {ascii : Bool} {bounds : Unicode.Ranges} {n : Nat}
      (h : Draft.Takes (Draft.addSet? backward bounds) n) : Measures backward (set ascii bounds) n

variable {backward : Bool}

/-- What is measured is what is taken in an automaton. -/
theorem Measures.takes {f : Form} {n : Nat} (h : f.Measures backward n) :
    Draft.Takes (Draft.addForm? backward f) n := by
  cases h with
  | text s =>
      refine ⟨_, 0, Nat.add_zero _, fun d => ?_⟩
      rw [Draft.addForm?]
  | set h =>
      rcases h with ⟨states, extra, rfl, hset⟩
      refine ⟨states, extra, rfl, fun d => ?_⟩
      rw [Draft.addForm?, hset]

/-- A text or a set may stand anywhere, and is not empty. -/
theorem Measures.traits {f : Form} {n : Nat} (h : f.Measures backward n) :
    f.traits.isEmpty = false ∧ f.traits.atStart = false ∧ f.traits.atEnd = false := by
  cases h with
  | text s => exact ⟨rfl, rfl, rfl⟩
  | set h => exact ⟨rfl, rfl, rfl⟩

/-- To put a text or a set in front of others takes its space and theirs, also
    where two texts become one. -/
theorem Measures.attach {f : Form} {n : Nat} {fs : List Form} {ns : List Nat}
    (h : f.Measures backward n) (hs : List.Forall₂ (Measures backward) fs ns) :
    ∃ ms, List.Forall₂ (Measures backward) (attach f fs) ms ∧ ms.sum = n + ns.sum := by
  have hcons : ∀ {gs : List Form}, gs = f :: fs →
      ∃ ms, List.Forall₂ (Measures backward) gs ms ∧ ms.sum = n + ns.sum := by
    rintro gs rfl
    exact ⟨n :: ns, .cons h hs, List.sum_cons⟩
  cases h with
  | set h => exact hcons rfl
  | text s =>
      cases hs with
      | nil => exact hcons rfl
      | @cons g m gs ms hg hgs =>
          cases hg with
          | set h' => exact hcons rfl
          | text t =>
              refine ⟨_ :: ms, .cons (.text (s ++ t)) hgs, ?_⟩
              rw [List.sum_cons, List.sum_cons, ← Nat.add_assoc, ← Nat.add_mul,
                ← List.length_append]
              congr 3
              exact List.flatMap_append

theorem attach_ne_nil (f : Form) (fs : List Form) : attach f fs ≠ [] := by
  unfold attach
  split
  · exact List.cons_ne_nil _ _
  · exact List.cons_ne_nil _ _

/-- A row of texts and sets may stand anywhere, so a match of it may begin
    anywhere in a text. -/
theorem traits_ofParts {fs : List Form} {ns : List Nat}
    (h : List.Forall₂ (Measures backward) fs ns) :
    (ofParts fs).traits.atStart = false ∧ (ofParts fs).traits.atEnd = false := by
  -- Parts that are not empty hide what stands behind them.
  have hrow : (rowTraits fs).atStart = false ∧ (rowTraits fs).atEnd = false := by
    induction h with
    | nil => exact ⟨rfl, rfl⟩
    | cons hf hfs ih =>
        rcases hf.traits with ⟨hempty, hstart, hend⟩
        simp only [rowTraits, Traits.append, hempty, hstart, hend, ih.2, Bool.false_and,
          Bool.and_false, Bool.or_self, and_self]
  cases h with
  | nil => exact ⟨rfl, rfl⟩
  | cons hf hfs =>
      cases hfs with
      | nil => exact hf.traits.2
      | cons hg hgs => exact hrow

/-- The parts of a row, in the order in which they are read. -/
theorem addForm?_row (fs : List Form) :
    Draft.addForm? backward (row fs) =
      Draft.sequence? (if backward then (Draft.addForms backward fs).reverse
        else Draft.addForms backward fs) := by
  funext d
  rw [Draft.addForm?]

/-- Texts and sets in a row take what they take one by one. -/
theorem takes_ofParts {fs : List Form} {ns : List Nat}
    (h : List.Forall₂ (Measures backward) fs ns) (hne : fs ≠ []) :
    Draft.Takes (Draft.addForm? backward (ofParts fs)) ns.sum := by
  -- What is measured is taken, part by part.
  have hparts : List.Forall₂ Draft.Takes (Draft.addForms backward fs) ns := by
    clear hne
    induction h with
    | nil => exact .nil
    | cons hf hfs ih => exact .cons hf.takes ih
  cases h with
  | nil => exact absurd rfl hne
  | @cons f n fs ns hf hfs =>
      cases hfs with
      | nil => simpa [ofParts] using hf.takes
      | @cons g m gs ms hg hgs =>
          have hrow : ofParts (f :: g :: gs) = row (f :: g :: gs) := rfl
          rw [hrow, addForm?_row]
          cases backward with
          | false => exact Draft.takes_sequence? hparts (List.cons_ne_nil _ _)
          | true =>
              rw [← List.sum_reverse]
              exact Draft.takes_sequence? (List.rel_reverse hparts)
                (List.reverse_ne_nil_iff.mpr (List.cons_ne_nil _ _))

/-- A form that is its own only part. -/
def IsPart (f : Form) : Prop :=
  f.parts = [f]

/-- A set is not a row, even where it becomes a text or nothing. -/
theorem isPart_ofSet (ascii : Bool) (bounds : Unicode.Ranges) : (ofSet ascii bounds).IsPart := by
  unfold ofSet IsPart
  split
  · rfl
  · split
    · rfl
    · rfl
  · rfl

theorem isPart_of_mem_attach {f g : Form} {fs : List Form} (hf : f.IsPart)
    (hfs : ∀ g ∈ fs, g.IsPart) (hg : g ∈ attach f fs) : g.IsPart := by
  unfold attach at hg
  split at hg
  · rcases List.mem_cons.mp hg with rfl | hg
    · rfl
    · exact hfs g (List.mem_cons_of_mem _ hg)
  · rcases List.mem_cons.mp hg with rfl | hg
    · exact hf
    · exact hfs g hg

/-- The parts of a form that has been put together are found again. -/
theorem parts_ofParts {fs : List Form} (h : ∀ f ∈ fs, f.IsPart) : (ofParts fs).parts = fs := by
  unfold ofParts
  split
  · rfl
  · exact h _ (List.mem_cons_self ..)
  · rfl

end Form

/-- The form of a character whose case does not matter. -/
def letter (c : Char) : Form :=
  .ofSet false (CharSet.caseless c).bounds

/-- The forms of the characters of a text, of which those that are themselves
    only are put together. -/
def letters (s : List Char) : List Form :=
  s.foldr (fun c fs => Form.attach (letter c) fs) []

theorem letters_cons (c : Char) (s : List Char) :
    letters (c :: s) = Form.attach (letter c) (letters s) := by
  simp only [letters, List.foldr_cons]

theorem isPart_of_mem_letters {s : List Char} {f : Form} (h : f ∈ letters s) : f.IsPart := by
  induction s generalizing f with
  | nil => exact nomatch h
  | cons c s ih =>
      rw [letters_cons] at h
      exact Form.isPart_of_mem_attach (Form.isPart_ofSet _ _) (fun g hg => ih hg) h

/-- The form of a character, as a choice of one. -/
theorem forms_caselessTerm (times : Nat) (c : Char) :
    Form.choiceIn times ((caselessTerm c).forms times) = letter c :=
  Form.choiceIn.eq_1 times _

theorem letters_singleton (c : Char) : letters [c] = [letter c] := by
  have hnil : letters [] = [] := List.foldr_nil
  rw [letters_cons, hnil, Form.attach]
  rintro _ _ _ - hnil
  exact nomatch hnil

/-- A row of characters is put together from the last one on. -/
theorem forms_literals (times : Nat) (s : List Char) :
    (Term.sequence (s.map caselessTerm)).forms times = [Form.ofParts (letters s)] := by
  induction s with
  | nil => rfl
  | cons c s ih =>
      cases s with
      | nil =>
          rw [letters_singleton]
          rfl
      | cons d s =>
          have hsequence : Term.sequence ((c :: d :: s).map caselessTerm) =
              .seq (caselessTerm c) (Term.sequence ((d :: s).map caselessTerm)) := rfl
          -- The parts of both sides are found again, and the new one is put in front.
          have hone : (letter c).parts = [letter c] := Form.isPart_ofSet _ _
          rw [hsequence, Term.forms, ih, forms_caselessTerm, Form.choiceIn.eq_1, Form.append, hone,
            Form.parts_ofParts fun f => isPart_of_mem_letters]
          rfl

/-- The normal form of a text is its characters in a row. -/
theorem form_termOf (s : List Char) : (termOf s).form = .ofParts (letters s) := by
  -- The flag in front has the empty form, which adds nothing to the row.
  have hforms : ∀ times, (termOf s).forms times = [Form.ofParts (letters s)] := by
    intro times
    cases s with
    | nil => rfl
    | cons c s =>
        have hsequence : termOf (c :: s) =
            .seq .directive (Term.sequence ((c :: s).map caselessTerm)) := rfl
        rw [hsequence, Term.forms, forms_literals, Term.forms, Form.choiceIn.eq_1,
          Form.choiceIn.eq_1, Form.append, Form.parts_ofParts fun f => isPart_of_mem_letters]
        rfl
  rw [Term.form, hforms, Form.choiceIn.eq_1]

/-- A row of characters fits if their spaces and that of the states around them
    stay within the limit. -/
theorem fitsOn_letters {backward : Bool} {space : Char → Nat} {s : List Char} (hne : s ≠ [])
    (h : ∀ c ∈ s, (letter c).Measures backward (space c)) :
    (Form.ofParts (letters s)).fitsOn backward = true ↔
      (if backward then 144 else 208) + (s.map space).sum ≤ Draft.limit := by
  have hletters : ∃ ns, List.Forall₂ (Form.Measures backward) (letters s) ns ∧
      ns.sum = (s.map space).sum := by
    clear hne
    induction s with
    | nil => exact ⟨[], .nil, rfl⟩
    | cons c s ih =>
        rw [List.forall_mem_cons] at h
        rcases ih h.2 with ⟨ns, hns, hsum⟩
        rcases h.1.attach hns with ⟨ms, hms, hsum'⟩
        rw [letters_cons]
        exact ⟨ms, hms, by rw [hsum', hsum, List.map_cons, List.sum_cons]⟩
  have hletters_ne : letters s ≠ [] := by
    rcases List.exists_cons_of_ne_nil hne with ⟨c, s, rfl⟩
    rw [letters_cons]
    exact Form.attach_ne_nil _ _
  rcases hletters with ⟨ns, hns, hsum⟩
  rcases Form.takes_ofParts hns hletters_ne with ⟨states, extra, htakes, hcount⟩
  rcases Form.traits_ofParts hns with ⟨hstart, hend⟩
  rw [hsum] at htakes
  rw [Form.fitsOn]
  cases backward with
  | false =>
      -- The group for the whole match has a state before it and one behind it.
      simp only [hstart, Bool.false_eq_true, if_false, Draft.addForm?, hcount,
        Option.bind_eq_bind, Draft.add?_bind_add?, Draft.add?_bind_linked]
      rw [Draft.isSome_add?_iff, ← htakes, Nat.add_mul]
      simp only [Draft.space, Draft.stateSpace, Draft.edgeSpace, Draft.linkSpace, Nat.add_mul]
      omega
  | true =>
      simp only [hend, Bool.false_eq_true, if_false, if_true, hcount, Option.bind_eq_bind,
        Draft.add?_bind_add?, Draft.add?_bind_linked]
      rw [Draft.isSome_add?_iff, ← htakes]
      simp only [Draft.space, Draft.stateSpace, Draft.edgeSpace, Draft.linkSpace, Nat.add_mul]
      omega

/-! ### Texts of ASCII -/

/-- The letter k in both cases, and the Kelvin sign. -/
def kelvinBounds : Unicode.Ranges :=
  [(75, 75), (107, 107), (0x212A, 0x212A)]

/-- The letter s in both cases, and the long s. -/
def longBounds : Unicode.Ranges :=
  [(83, 83), (115, 115), (0x17F, 0x17F)]

/-- The characters that differ from one of ASCII in case only. -/
def asciiBounds (c : Char) : Unicode.Ranges :=
  if c.toLower = 'k' then kelvinBounds
  else if c.toLower = 's' then longBounds
  else if c.isAlpha then [(c.toUpper.toNat, c.toUpper.toNat), (c.toLower.toNat, c.toLower.toNat)]
  else [(c.toNat, c.toNat)]

/-- The space for a character of ASCII, where those for k and for s are
    given. -/
def spaceOf (kelvin long : Nat) (c : Char) : Nat :=
  if c.toLower = 'k' then kelvin
  else if c.toLower = 's' then long
  else if c.isAlpha then 80
  else 32

/-- The space for a character of ASCII, read from the front. -/
def frontSpace (c : Char) : Nat :=
  spaceOf 168 128 c

/-- The space for a character of ASCII, read from the back. -/
def backSpace (c : Char) : Nat :=
  spaceOf 236 204 c

/-- The characters that differ in case only, for each character of ASCII. -/
theorem bounds_caseless_ofNat {n : Nat} (h : n < 128) :
    (CharSet.caseless (Char.ofNat n)).bounds = asciiBounds (Char.ofNat n) := by
  -- The table is searched for the letters k and s only.
  by_cases hfold : (Unicode.fold (Char.ofNat n)).toNat = 107 ∨
    (Unicode.fold (Char.ofNat n)).toNat = 115
  · have hcases : n = 75 ∨ n = 107 ∨ n = 83 ∨ n = 115 := by
      revert n
      decide
    rcases hcases with rfl | rfl | rfl | rfl <;> decide
  · rw [not_or] at hfold
    have hascii : (Unicode.fold (Char.ofNat n)).toNat < 128 := by
      revert n
      decide
    rw [CharSet.bounds, CharSet.codeRanges, Unicode.orbit,
      Unicode.foldSources_of_ascii hascii hfold.1 hfold.2]
    revert n
    decide

/-- The same for a character that is known to be of ASCII. -/
theorem bounds_caseless {c : Char} (h : c.toNat < 128) :
    (CharSet.caseless c).bounds = asciiBounds c := by
  rw [← Char.ofNat_toNat c]
  exact bounds_caseless_ofNat h

theorem cases_ofNat : ∀ n < 128, (Char.ofNat n).isAlpha = true →
    (Char.ofNat n).toUpper.toNat < 128 ∧ (Char.ofNat n).toLower.toNat < 128 := by
  decide

/-- The bytes of the three characters, of which one has three. -/
theorem byteRanges_kelvin :
    (kelvinBounds.flatMap fun b => Text.Utf8.byteRanges b.1 b.2) =
      [[(75, 75)], [(107, 107)], [(0xE2, 0xE2), (0x84, 0x84), (0xAA, 0xAA)]] := by
  decide

/-- The bytes of the three characters, of which one has two. -/
theorem byteRanges_long :
    (longBounds.flatMap fun b => Text.Utf8.byteRanges b.1 b.2) =
      [[(83, 83)], [(115, 115)], [(0xC5, 0xC5), (0xBF, 0xBF)]] := by
  decide

/-- What the three characters take in the two automata. -/
theorem takes_kelvin (backward : Bool) :
    Draft.Takes (Draft.addSet? backward kelvinBounds) (if backward then 236 else 168) := by
  have hset (d : Draft) := Draft.addSet?.eq_1 backward kelvinBounds d
  rw [byteRanges_kelvin] at hset
  cases backward with
  | false =>
      -- Four states, one of which has three links.
      refine ⟨4, 40, rfl, fun d => ?_⟩
      rw [hset, if_neg (by decide), if_neg Bool.false_ne_true,
        d.addFromFront?_eq (by decide) (by decide) (by decide) (by decide)]
      rfl
  | true =>
      -- One state for each of the five bytes and two around them, with a link for each
      -- row.
      refine ⟨7, 12, rfl, fun d => ?_⟩
      rw [hset, if_neg (by decide), if_pos rfl, d.addFromBack?_eq _ (by decide)]
      rfl

/-- The same for the letter s. -/
theorem takes_long (backward : Bool) :
    Draft.Takes (Draft.addSet? backward longBounds) (if backward then 204 else 128) := by
  have hset (d : Draft) := Draft.addSet?.eq_1 backward longBounds d
  rw [byteRanges_long] at hset
  cases backward with
  | false =>
      refine ⟨3, 32, rfl, fun d => ?_⟩
      rw [hset, if_neg (by decide), if_neg Bool.false_ne_true,
        d.addFromFront?_eq (by decide) (by decide) (by decide) (by decide)]
      rfl
  | true =>
      refine ⟨6, 12, rfl, fun d => ?_⟩
      rw [hset, if_neg (by decide), if_pos rfl, d.addFromBack?_eq _ (by decide)]
      rfl

/-- A character of ASCII takes the space that the table gives. -/
theorem measures_letter (backward : Bool) {c : Char} (h : c.toNat < 128) :
    (letter c).Measures backward (if backward then backSpace c else frontSpace c) := by
  rw [letter, bounds_caseless h, asciiBounds]
  simp only [frontSpace, backSpace, spaceOf]
  by_cases hk : c.toLower = 'k'
  · simp only [if_pos hk]
    exact .set (takes_kelvin backward)
  by_cases hs : c.toLower = 's'
  · simp only [if_neg hk, if_pos hs]
    exact .set (takes_long backward)
  simp only [if_neg hk, if_neg hs, ite_self]
  -- A letter has its two cases, and any other character has only itself.
  by_cases halpha : c.isAlpha = true
  · have hcases := cases_ofNat _ h
    rw [Char.ofNat_toNat] at hcases
    rcases hcases halpha with ⟨hupper, hlower⟩
    simp only [if_pos halpha]
    refine .set ⟨2, 16, rfl, fun d => ?_⟩
    rw [Draft.addSet?, if_pos (by simp [hupper, hlower])]
    rfl
  · simp only [if_neg halpha]
    -- A set of one character is a text, which takes a state for each byte.
    have hone : Form.ofSet false [(c.toNat, c.toNat)] = .text [c] := by
      rw [Form.ofSet, if_pos rfl, Char.ofNat_toNat]
    have hsize : c.utf8Size = 1 :=
      Char.utf8Size_eq_one_iff.mpr (UInt32.le_iff_toNat_le.mpr (Nat.le_of_lt_succ h))
    have hlength : (Text.Utf8.encode [c]).length = 1 := by
      rw [Text.Utf8.encode, List.flatMap_singleton, String.length_utf8EncodeChar, hsize]
    have htext : Form.Measures backward (.text [c]) _ := .text [c]
    rw [hone]
    rwa [hlength] at htext

/-- A text of ASCII fits exactly if what its characters take is not too
    much. -/
theorem fits_iff_of_ascii {s : List Char} (hne : s ≠ []) (h : ∀ c ∈ s, c.toNat < 128) :
    Fits s ↔ 208 + (s.map frontSpace).sum ≤ Draft.limit ∧
      144 + (s.map backSpace).sum ≤ Draft.limit := by
  have hfront := fitsOn_letters hne fun c hc => measures_letter false (h c hc)
  have hback := fitsOn_letters hne fun c hc => measures_letter true (h c hc)
  rw [Fits, form_termOf, Form.fits, Bool.and_eq_true, hfront, hback]
  rfl

/-- No character takes more than the letter k. -/
theorem sum_spaceOf_le {kelvin long : Nat} (h : 80 ≤ kelvin) (hlong : long ≤ kelvin)
    (s : List Char) : (s.map (spaceOf kelvin long)).sum ≤ s.length * kelvin := by
  induction s with
  | nil => exact Nat.zero_le _
  | cons c s ih =>
      have hone : spaceOf kelvin long c ≤ kelvin := by
        unfold spaceOf
        split_ifs <;> omega
      rw [List.map_cons, List.sum_cons, List.length_cons, Nat.succ_mul]
      omega

/-- A text of ASCII with at most 44430 characters fits. -/
theorem fits_of_length_le {s : List Char} (hne : s ≠ []) (h : s.all (·.toNat < 128) = true)
    (hlength : s.length ≤ 44430) : Fits s := by
  have hascii : ∀ c ∈ s, c.toNat < 128 := fun c hc => of_decide_eq_true (List.all_eq_true.mp h c hc)
  -- The automaton from the back is the larger one, so it gives the bound.
  have hfront : (s.map frontSpace).sum ≤ s.length * 168 :=
    sum_spaceOf_le (by decide) (by decide) s
  have hback : (s.map backSpace).sum ≤ s.length * 236 := sum_spaceOf_le (by decide) (by decide) s
  rw [fits_iff_of_ascii hne hascii]
  simp only [Draft.limit]
  omega

/-- The letter k may be repeated 44430 times, and not more often. -/
theorem fits_replicate_iff {n : Nat} (h : 0 < n) : Fits (List.replicate n 'k') ↔ n ≤ 44430 := by
  have hascii : ∀ c ∈ List.replicate n 'k', c.toNat < 128 := by
    intro c hc
    rw [List.eq_of_mem_replicate hc]
    decide
  have hne : List.replicate n 'k' ≠ [] := fun hnil =>
    absurd (List.replicate_eq_nil_iff _ |>.mp hnil) (Nat.ne_of_gt h)
  have hfront : frontSpace 'k' = 168 := by decide
  have hback : backSpace 'k' = 236 := by decide
  rw [fits_iff_of_ascii hne hascii, List.map_replicate, List.map_replicate, List.sum_replicate_nat,
    List.sum_replicate_nat, hfront, hback]
  simp only [Draft.limit]
  omega

end Pattern

end DocQuery
