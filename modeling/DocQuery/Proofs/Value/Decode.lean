import DocQuery.Proofs.Outcome
import DocQuery.Proofs.Value.Names
import DocQuery.Value.Decode

/-!
# Decoding Sound Documents

Decoding replaces the extended forms inside a document. A storable document has
none, since every form is marked by a name with a dollar sign, and so it decodes
to itself.

A settled document may have such names, but what stands under them is hollow,
and no form has a hollow content: texts, numbers and bytes are what forms are
made of. So a settled document decodes to itself unless a name in it, at any
depth, marks a form, and then decoding fails.

The proof that a form has no hollow content goes through the forms one by one,
as `contentReader?` does. A form that is one text is not an array and not a
document, and a form with several entries has a text among them. Timestamps,
decimals and instants are read in other ways as well, and each has its lemma.

Decoding reads the entries of a document in order and keeps those that have been
read, so the theorem about entries is about both: if the names of all are
distinct, what has been read stays in front, and each entry that is read is put
after it. Where a name marks a form, the reading does not go on, and what has
been read is dropped with the rest.

## Main definitions

* `Value.marksForm`: Does a name mark an extended form?
* `Value.hasForm`, `Document.hasForm`: Is there such a name?

## Theorems

* `contentReader?_of_not_isOperator`: Other names mark no form.
* `contentReader?_of_hollow`: No form has a hollow content.
* `decode?_of_settled`: What decoding makes of a settled document.
* `decode?_of_storable`: A storable document decodes to itself.
* `mapM_decode?_of_settled`: What decoding makes of several documents.
-/

namespace DocQuery

namespace Value

/-- Options that stand in order stay as they are. -/
theorem sortOptions_of_pairwise (options : String)
    (h : options.toList.Pairwise fun a b => a.toNat ≤ b.toNat) : sortOptions options = options := by
  rw [sortOptions, List.mergeSort_of_pairwise, String.ofList_toList]
  exact h.imp fun hab => decide_eq_true hab

/-- Only names with a dollar sign mark a form. -/
theorem contentReader?_of_not_isOperator (name : String) (h : Filter.isOperator name = false) :
    contentReader? name = none := by
  unfold contentReader?
  split
  all_goals first
    | rfl
    | exact absurd h (by decide)

/-- The values that a hollow document has under some names are hollow. -/
theorem hollow_of_mapM_get? (fields : Document) (names : List String) (found : List Value)
    (hf : ∀ p ∈ fields, p.2.hollow = true) (h : names.mapM (Document.get? fields) = some found) :
    ∀ v ∈ found, v.hollow = true := by
  induction names generalizing found with
  | nil =>
      rw [List.mapM_nil] at h
      rw [← Option.some.inj h]
      exact fun v hv => absurd hv List.not_mem_nil
  | cons name names ih =>
      rw [List.mapM_cons] at h
      -- Every name has been found, so each value is one of the document.
      rcases Option.bind_eq_some_iff.mp h with ⟨v, hv, hrest⟩
      rcases Option.bind_eq_some_iff.mp hrest with ⟨vs, hvs, heq⟩
      rw [← Option.some.inj heq, List.forall_mem_cons]
      exact ⟨hf (name, v) (Document.mem_of_get?_eq_some fields name v hv), ih vs hvs⟩

/-- The entries of a hollow value are hollow. -/
theorem hollow_of_entries? (names : List String) (v : Value) (found : List Value)
    (hv : v.hollow = true) (h : entries? names v = some found) : ∀ w ∈ found, w.hollow = true := by
  rcases eq_of_hollow v hv with ⟨items, rfl⟩ | ⟨fields, rfl⟩
  · -- The entries may also be the elements of an array, in the order of the names.
    rw [hollow_array_iff] at hv
    simp only [entries?] at h
    split at h
    · exact Option.some.inj h ▸ hv
    · cases h
  · rw [hollow_document_iff] at hv
    simp only [entries?] at h
    split at h
    · exact hollow_of_mapM_get? fields names found hv.2 h
    · cases h

/-- A hollow value has no text among its entries. -/
theorem string_notMem_entries? (names : List String) (v : Value) (found : List Value) (s : String)
    (hv : v.hollow = true) (h : entries? names v = some found) : Value.string s ∉ found :=
  fun hmem => Bool.false_ne_true (hollow_of_entries? names v found hv h (.string s) hmem)

theorem textContent?_of_hollow (read? : String → Option Value) (v : Value)
    (hv : v.hollow = true) : textContent? read? v = none := by
  rcases eq_of_hollow v hv with ⟨_, rfl⟩ | ⟨_, rfl⟩
  · rfl
  · rfl

/-- An identifier is given by a text or by bytes. -/
theorem idContent?_of_hollow (v : Value) (hv : v.hollow = true) : idContent? v = none := by
  rcases eq_of_hollow v hv with ⟨_, rfl⟩ | ⟨_, rfl⟩
  · rfl
  · rfl

theorem oneContent?_of_hollow (one v : Value) (hv : v.hollow = true) :
    oneContent? one v = none := by
  rcases eq_of_hollow v hv with ⟨_, rfl⟩ | ⟨_, rfl⟩
  · rfl
  · rfl

theorem trueContent?_of_hollow (one v : Value) (hv : v.hollow = true) :
    trueContent? one v = none := by
  rcases eq_of_hollow v hv with ⟨_, rfl⟩ | ⟨_, rfl⟩
  · rfl
  · rfl

/-- Bytes are given by two texts. -/
theorem binaryContent?_of_hollow (v : Value) (hv : v.hollow = true) : binaryContent? v = none := by
  unfold binaryContent?
  split
  · rename_i h
    exact absurd List.mem_cons_self (string_notMem_entries? _ v _ _ hv h)
  · rfl

theorem regexContent?_of_hollow (v : Value) (hv : v.hollow = true) : regexContent? v = none := by
  unfold regexContent?
  split
  · rename_i h
    exact absurd List.mem_cons_self (string_notMem_entries? _ v _ _ hv h)
  · rfl

theorem pointerContent?_of_hollow (v : Value) (hv : v.hollow = true) :
    pointerContent? v = none := by
  unfold pointerContent?
  split
  · rename_i h
    exact absurd List.mem_cons_self (string_notMem_entries? _ v _ _ hv h)
  · rename_i h
    exact absurd List.mem_cons_self (string_notMem_entries? _ v _ _ hv h)
  · rfl

/-- A timestamp is given by two numbers. -/
theorem timestampContent?_of_hollow (v : Value) (hv : v.hollow = true) :
    timestampContent? v = none := by
  unfold timestampContent?
  simp only
  split
  · rename_i t i h
    -- The time is hollow, so it is no number.
    have ht := hollow_of_entries? _ v _ hv h t List.mem_cons_self
    rcases eq_of_hollow t ht with ⟨_, rfl⟩ | ⟨_, rfl⟩
    · rfl
    · rfl
  · rfl

/-- A decimal has sixteen bytes, and hollow values stand for none. -/
theorem decimalContent?_of_hollow (v : Value) (hv : v.hollow = true) :
    decimalContent? v = none := by
  rcases eq_of_hollow v hv with ⟨items, rfl⟩ | ⟨fields, rfl⟩
  · rw [hollow_array_iff] at hv
    cases items with
    | nil => rfl
    | cons item items =>
        have hitem : byte? item = none := by
          rcases eq_of_hollow item (hv item List.mem_cons_self) with ⟨_, rfl⟩ | ⟨_, rfl⟩
          · rfl
          · rfl
        rw [decimalContent?, bytes?, List.mapM_cons, hitem]
        rfl
  · rfl

/-- An instant is given by a text, a number or a form of one. -/
theorem dateContent?_of_hollow (v : Value) (hv : v.hollow = true) : dateContent? v = none := by
  unfold dateContent?
  split
  · rename_i h
    exact absurd List.mem_cons_self (string_notMem_entries? _ _ _ _ hv h)
  -- A text or a number is not hollow.
  · exact absurd hv Bool.false_ne_true
  · exact absurd hv Bool.false_ne_true
  · exact absurd hv Bool.false_ne_true
  · rfl

/-- No form has a hollow content. -/
theorem contentReader?_of_hollow (name : String) (read? : Value → Option Value) (v : Value)
    (hv : v.hollow = true) (h : contentReader? name = some read?) : read? v = none := by
  unfold contentReader? at h
  split at h
  -- One goal for each name that marks a form, in the order in which they are read.
  all_goals cases h
  · exact idContent?_of_hollow v hv
  · exact textContent?_of_hollow _ v hv
  · exact textContent?_of_hollow _ v hv
  · exact textContent?_of_hollow _ v hv
  · exact textContent?_of_hollow _ v hv
  · exact textContent?_of_hollow _ v hv
  · exact decimalContent?_of_hollow v hv
  · exact binaryContent?_of_hollow v hv
  · exact textContent?_of_hollow _ v hv
  · exact timestampContent?_of_hollow v hv
  · exact regexContent?_of_hollow v hv
  · exact pointerContent?_of_hollow v hv
  · exact dateContent?_of_hollow v hv
  · exact oneContent?_of_hollow _ v hv
  · exact oneContent?_of_hollow _ v hv
  · exact trueContent?_of_hollow _ v hv

/-- The source of code is a text. -/
theorem scoped?_of_hollow (v : Value) (scope : Option Value) (hv : v.hollow = true) :
    scoped? v scope = none := by
  rcases eq_of_hollow v hv with ⟨_, rfl⟩ | ⟨_, rfl⟩
  · rfl
  · rfl

/-- What stands under a marked name in a settled document is hollow. -/
theorem hollow_of_isOperator (name : String) (v : Value) (rest : Document)
    (hname : Filter.isOperator name = true) (h : soundFields hollow ((name, v) :: rest) = true) :
    v.hollow = true := by
  rw [soundFields, if_pos hname, Bool.and_eq_true] at h
  exact h.1

/-- The value of the first entry is sound, and so are the other entries. -/
theorem sound_of_soundFields_cons (name : String) (v : Value) (rest : Document)
    (h : soundFields hollow ((name, v) :: rest) = true) :
    v.sound hollow = true ∧ soundFields hollow rest = true := by
  rw [soundFields, Bool.and_eq_true] at h
  refine ⟨?_, h.2⟩
  have hv := h.1
  split at hv
  · exact sound_of_hollow v hv
  · exact hv

/-- Code without a source is nothing, with a scope or without. -/
theorem decodeFields?_code (done : Document) (v : Value) (rest : Document)
    (hv : v.hollow = true) : decodeFields? done (("$code", v) :: rest) = none := by
  rw [decodeFields?.eq_def]
  cases rest with
  | nil =>
      rcases eq_of_hollow v hv with ⟨_, rfl⟩ | ⟨_, rfl⟩
      · rfl
      · rfl
  -- A scope would have to decode, and then stand beside a text.
  | cons p rest =>
      simp only [if_true, scoped?_of_hollow v _ hv]
      exact ite_self none

/-- A scope has to stand beside a source. -/
theorem decodeFields?_scope (done : Document) (v : Value) (rest : Document)
    (hrest : soundFields hollow rest = true) :
    decodeFields? done (("$scope", v) :: rest) = none := by
  rw [decodeFields?.eq_def]
  cases rest with
  | nil => rfl
  | cons p rest =>
      rcases p with ⟨name, w⟩
      simp only [if_neg (by decide : ¬ "$scope" = "$code"), if_true]
      split
      · rename_i hname
        subst hname
        exact scoped?_of_hollow w _ (hollow_of_isOperator _ w rest (by decide) hrest)
      · rfl

/-- An entry with an ordinary name is decoded and put after those before it. -/
theorem decodeFields?_cons (done : Document) (name : String) (v : Value) (rest : Document)
    (hcode : name ≠ "$code") (hscope : name ≠ "$scope") (h : contentReader? name = none) :
    decodeFields? done ((name, v) :: rest) =
      (decode? v).bind fun w => decodeFields? (Document.insert done name w) rest := by
  rw [decodeFields?.eq_def]
  simp only [if_neg hcode, if_neg hscope, h]
  cases decode? v <;> rfl

/-- At a name that marks a form its content decides. -/
theorem decodeFields?_marked (done : Document) (name : String) (v : Value) (rest : Document)
    (read? : Value → Option Value) (hcode : name ≠ "$code") (hscope : name ≠ "$scope")
    (h : contentReader? name = some read?) :
    decodeFields? done ((name, v) :: rest) = read? v := by
  rw [decodeFields?.eq_def]
  simp only [if_neg hcode, if_neg hscope, h]

/-- Does a name mark an extended form? -/
def marksForm (name : String) : Bool :=
  name == "$code" || name == "$scope" || (contentReader? name).isSome

/-- Has a value a name, at any depth, that marks an extended form? -/
def hasForm (v : Value) : Bool :=
  v.names.any marksForm

theorem isOperator_of_marksForm (name : String) (h : marksForm name = true) :
    Filter.isOperator name = true := by
  unfold marksForm at h
  rw [Bool.or_eq_true, Bool.or_eq_true, beq_iff_eq, beq_iff_eq] at h
  rcases h with (rfl | rfl) | h
  · decide
  · decide
  · -- A name without a dollar sign has no reader.
    by_contra hc
    rw [contentReader?_of_not_isOperator name ((Bool.not_eq_true _).mp hc)] at h
    exact Bool.false_ne_true h

/-- A name that marks no form is an ordinary one. -/
theorem marksForm_eq_false_iff (name : String) :
    marksForm name = false ↔ name ≠ "$code" ∧ name ≠ "$scope" ∧ contentReader? name = none := by
  unfold marksForm
  rw [Bool.or_eq_false_iff, Bool.or_eq_false_iff, beq_eq_false_iff_ne, beq_eq_false_iff_ne,
    Option.isSome_eq_false_iff, Option.isNone_iff_eq_none, and_assoc]

/-- A marked name in a settled document makes decoding fail, whatever has been
    read before. -/
theorem decodeFields?_of_marksForm (done : Document) (name : String) (v : Value) (rest : Document)
    (hname : marksForm name = true) (hv : soundFields hollow ((name, v) :: rest) = true) :
    decodeFields? done ((name, v) :: rest) = none := by
  have hhollow := hollow_of_isOperator name v rest (isOperator_of_marksForm name hname) hv
  -- Code and scopes are read together, and all other forms by their content.
  by_cases hcode : name = "$code"
  · subst hcode
    exact decodeFields?_code done v rest hhollow
  by_cases hscope : name = "$scope"
  · subst hscope
    exact decodeFields?_scope done v rest (sound_of_soundFields_cons _ v rest hv).2
  rcases hread : contentReader? name with _ | read?
  · rw [(marksForm_eq_false_iff name).mpr ⟨hcode, hscope, hread⟩] at hname
    exact absurd hname Bool.false_ne_true
  · -- Hollow values are no contents.
    rw [decodeFields?_marked done name v rest read? hcode hscope hread]
    exact contentReader?_of_hollow name read? v hhollow hread

mutual

/-- Decoding a settled value changes nothing, and fails exactly if a name in it
    marks a form. -/
theorem decode?_of_settled :
    ∀ v : Value, v.sound hollow = true → decode? v = if v.hasForm then none else some v
  | .array items, hv => by
      rw [sound] at hv
      rw [decode?, decodeItems?_of_settled items hv, hasForm, names]
      split
      · rfl
      · rfl
  | .document fields, hv => by
      rw [sound, Bool.and_eq_true, decide_eq_true_eq] at hv
      rw [decode?, decodeFields?_of_settled [] fields hv.1 hv.2, hasForm, names, List.nil_append]
  | .scopedCode source scope, hv => by
      rw [sound, Bool.and_eq_true, decide_eq_true_eq] at hv
      rw [decode?, decodeFields?_of_settled [] scope hv.1 hv.2, hasForm, names, List.nil_append]
      split
      · rfl
      · rfl
  -- Decoding sorts the options of a pattern, which are sorted already.
  | .regex pattern options, hv => by
      rw [sound, decide_eq_true_eq] at hv
      rw [decode?, sortOptions_of_pairwise options hv]
      rfl
  | .null, _ | .boolean _, _ | .int32 _, _ | .int64 _, _ | .double _, _ | .decimal _, _
  | .string _, _ | .objectId _, _ | .dateTime _, _ | .binary _ _, _ | .timestamp _ _, _
  | .symbol _, _ | .code _, _ | .undefined, _ | .minKey, _ | .maxKey, _
  | .pointer _ _, _ => rfl

theorem decodeItems?_of_settled :
    ∀ items : List Value, soundItems hollow items = true →
      decodeItems? items = if (namesInItems items).any marksForm then none else some items
  | [], _ => rfl
  | v :: items, hv => by
      rw [soundItems, Bool.and_eq_true] at hv
      rw [decodeItems?, decode?_of_settled v hv.1, decodeItems?_of_settled items hv.2,
        namesInItems, List.any_append, hasForm]
      rcases v.names.any marksForm with _ | _
      · rcases (namesInItems items).any marksForm with _ | _
        · rfl
        · rfl
      · rfl

/-- The entries still to be read are put after those that have been read. That
    all names are distinct is what keeps the former in their places. -/
theorem decodeFields?_of_settled (done : Document) :
    ∀ fields : List (String × Value), Document.Distinct (done ++ fields) →
      soundFields hollow fields = true →
      decodeFields? done fields =
        if (namesInFields fields).any marksForm then none else some (.document (done ++ fields))
  | [], _, _ => by
      rw [decodeFields?.eq_def, List.append_nil]
      rfl
  | (name, v) :: rest, hd, hv => by
      have hsound := sound_of_soundFields_cons name v rest hv
      rw [namesInFields, List.any_cons, List.any_append]
      rcases hname : marksForm name with _ | _
      · -- An ordinary name: its value is decoded and the reading goes on.
        rcases (marksForm_eq_false_iff name).mp hname with ⟨hcode, hscope, hread⟩
        -- The name has not been read before, so the entry comes last.
        have hmem : name ∉ Document.keys done := by
          simp only [Document.Distinct, Document.keys, List.map_append, List.map_cons,
            List.nodup_append] at hd
          exact fun hmem => hd.2.2 name hmem name List.mem_cons_self rfl
        have happ : done ++ [(name, v)] ++ rest = done ++ (name, v) :: rest := by
          rw [List.append_assoc, List.singleton_append]
        have ih := decodeFields?_of_settled (done ++ [(name, v)]) rest
          (by rw [happ]; exact hd) hsound.2
        rw [decodeFields?_cons done name v rest hcode hscope hread,
          decode?_of_settled v hsound.1, hasForm, Bool.false_or]
        -- The value of the entry may have a form inside, and then nothing is decoded.
        rcases v.names.any marksForm with _ | _
        · rw [if_neg Bool.false_ne_true, Option.bind_some,
            Document.insert_of_notMem done name v hmem, ih, happ, Bool.false_or]
        · rfl
      · rw [decodeFields?_of_marksForm done name v rest hname hv, Bool.true_or, if_pos rfl]

end

end Value

namespace Document

/-- Has a document a name, at any depth, that marks an extended form? -/
def hasForm (d : Document) : Bool :=
  (Value.document d).hasForm

/-- A settled document decodes to itself, unless a name in it marks a form. -/
theorem decode?_of_settled (d : Document) (hd : d.Settled) :
    decode? d = if d.hasForm then none else some d := by
  rw [decode?, Value.decode?_of_settled _ ((Value.sound_document_iff _ d).mpr hd), hasForm]
  rcases (Value.document d).hasForm with _ | _
  · rfl
  · rfl

/-- A storable document has no form, as it has no name with a dollar sign. -/
theorem hasForm_of_storable (d : Document) (hd : d.Storable) : d.hasForm = false := by
  unfold hasForm Value.hasForm
  rw [List.any_eq_false]
  intro name hname hmarks
  -- A name that marks a form starts with a dollar sign.
  have hnot := Value.not_isOperator_of_mem_names name _
    ((Value.sound_document_iff _ d).mpr hd) hname
  rw [Value.isOperator_of_marksForm name hmarks] at hnot
  cases hnot

/-- A storable document decodes to itself. -/
theorem decode?_of_storable (d : Document) (hd : d.Storable) : decode? d = some d := by
  rw [decode?_of_settled d (settled_of_storable d hd), hasForm_of_storable d hd]
  rfl

/-- Settled documents decode to themselves, unless a name in one of them marks a
    form. -/
theorem mapM_decode?_of_settled (docs : List Document) (h : ∀ d ∈ docs, d.Settled) :
    docs.mapM decode? = if docs.any hasForm then none else some docs := by
  induction docs with
  | nil => rfl
  | cons d docs ih =>
      rw [List.forall_mem_cons] at h
      rw [List.mapM_cons, decode?_of_settled d h.1, ih h.2, List.any_cons]
      rcases d.hasForm with _ | _
      · rcases docs.any hasForm with _ | _
        · rfl
        · rfl
      · rfl

/-- Storable documents decode to themselves. -/
theorem mapM_decode?_of_storable (docs : List Document) (h : ∀ d ∈ docs, d.Storable) :
    docs.mapM decode? = some docs := by
  have hmapM := mapM_some decode? id docs fun d hd => decode?_of_storable d (h d hd)
  rwa [List.map_id] at hmapM

/-- Settled documents that are decoded are decoded to themselves. -/
theorem eq_of_mapM_decode?_eq_some (docs decoded : List Document) (hdocs : ∀ d ∈ docs, d.Settled)
    (h : docs.mapM decode? = some decoded) : decoded = docs := by
  rw [mapM_decode?_of_settled docs hdocs] at h
  split at h
  · cases h
  · exact (Option.some.inj h).symm

end Document

end DocQuery
