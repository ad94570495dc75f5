import DocQuery.Proofs.Value.Decode

/-!
# Decoding Entry by Entry

No extended form stands for a document. So if a document decodes to a document,
none of the names at its top marks a form, and each of its entries has been
decoded on its own: what is under a name in the end is what was under it,
decoded, whatever other names there are.

A document that is a form is replaced by what it stands for, and that may be
anything except a document. This is shown form by form, in the order in which
the reader has them. What remains are documents without a name at the top that
marks a form, and of those the entries are read one after the other.

So a decoded document can be compared with the one that it was decoded from,
name by name. Forms deeper inside do not matter for that. They change the
values, and each value is decoded without a look at the others.

## Theorems

* `Value.ne_document_of_contentReader?`: No form stands for a document.
* `Value.ordinary_of_decodeFields?`: A document that stays one has no name that
  marks a form.
* `Document.get?_decode?`: What is under a name of a decoded document.
-/

namespace DocQuery

namespace Value

/-- What is made of a constructor other than that of documents is no document. -/
theorem ne_document_of_map {α : Type} (f : α → Value) (o : Option α) (fields : Document)
    (hf : ∀ a, f a ≠ .document fields) : o.map f ≠ some (.document fields) := by
  intro h
  rcases Option.map_eq_some_iff.mp h with ⟨a, -, ha⟩
  exact hf a ha

/-- A reader of texts makes a document of no text, so it makes one of nothing. -/
theorem textContent?_ne_document (read? : String → Option Value) (v : Value) (fields : Document)
    (h : ∀ s, read? s ≠ some (.document fields)) :
    textContent? read? v ≠ some (.document fields) := by
  unfold textContent?
  split
  · exact h _
  · exact (Option.some_ne_none _).symm

theorem idContent?_ne_document (v : Value) (fields : Document) :
    idContent? v ≠ some (.document fields) := by
  unfold idContent?
  split
  · -- An identifier is made of digits or of bytes.
    exact ne_document_of_map .objectId _ fields fun _ => nofun
  · split
    · exact nofun
    · exact nofun
  · exact nofun

/-- The form of a constant stands for that constant. -/
theorem oneContent?_ne_document (one v : Value) (fields : Document) (h : one ≠ .document fields) :
    oneContent? one v ≠ some (.document fields) := by
  have hone : some one ≠ some (.document fields) := fun heq => h (Option.some.inj heq)
  unfold oneContent?
  split
  · split
    · exact hone
    · exact nofun
  · split
    · exact hone
    · exact nofun
  · exact nofun

theorem trueContent?_ne_document (one v : Value) (fields : Document) (h : one ≠ .document fields) :
    trueContent? one v ≠ some (.document fields) := by
  unfold trueContent?
  split
  · exact fun heq => h (Option.some.inj heq)
  · exact nofun

theorem binaryContent?_ne_document (v : Value) (fields : Document) :
    binaryContent? v ≠ some (.document fields) := by
  unfold binaryContent? Form.binary?
  split
  · split
    · exact nofun
    · exact nofun
  · exact nofun

theorem timestampContent?_ne_document (v : Value) (fields : Document) :
    timestampContent? v ≠ some (.document fields) := by
  unfold timestampContent?
  simp only
  split
  · split
    · exact nofun
    · exact nofun
  · exact nofun

theorem regexContent?_ne_document (v : Value) (fields : Document) :
    regexContent? v ≠ some (.document fields) := by
  unfold regexContent?
  split
  · exact nofun
  · exact nofun

theorem pointerContent?_ne_document (v : Value) (fields : Document) :
    pointerContent? v ≠ some (.document fields) := by
  unfold pointerContent?
  split
  · exact nofun
  · split
    · exact ne_document_of_map (.pointer _) _ fields fun _ => nofun
    · exact nofun
  · exact nofun

/-- However an instant is given, it stands for an instant. -/
theorem dateContent?_ne_document (v : Value) (fields : Document) :
    dateContent? v ≠ some (.document fields) := by
  unfold dateContent?
  split
  · exact ne_document_of_map .dateTime _ fields fun _ => nofun
  · exact ne_document_of_map .dateTime _ fields fun _ => nofun
  · exact nofun
  · exact nofun
  · exact nofun

/-- Code with a scope is code. -/
theorem scoped?_ne_document (v : Value) (scope : Option Value) (fields : Document) :
    scoped? v scope ≠ some (.document fields) := by
  unfold scoped?
  split
  · exact nofun
  · exact nofun

/-- No form stands for a document. -/
theorem ne_document_of_contentReader? (name : String) (read? : Value → Option Value) (v : Value)
    (fields : Document) (h : contentReader? name = some read?) :
    read? v ≠ some (.document fields) := by
  unfold contentReader? at h
  split at h
  all_goals cases h
  · exact idContent?_ne_document v fields
  · exact textContent?_ne_document _ v fields fun _ => nofun
  -- The readers of texts say what they make of a text, if anything.
  · exact textContent?_ne_document _ v fields fun _ => ne_document_of_map .int32 _ _ fun _ => nofun
  · exact textContent?_ne_document _ v fields fun _ => ne_document_of_map .int64 _ _ fun _ => nofun
  · exact textContent?_ne_document _ v fields fun _ =>
      ne_document_of_map .double _ _ fun _ => nofun
  · exact textContent?_ne_document _ v fields fun _ =>
      ne_document_of_map .decimal _ _ fun _ => nofun
  · exact ne_document_of_map .decimal _ _ fun _ => nofun
  · exact binaryContent?_ne_document v fields
  · exact textContent?_ne_document _ v fields fun _ =>
      ne_document_of_map (.binary 4) _ _ fun _ => nofun
  · exact timestampContent?_ne_document v fields
  · exact regexContent?_ne_document v fields
  · exact pointerContent?_ne_document v fields
  · exact dateContent?_ne_document v fields
  · exact oneContent?_ne_document _ v fields nofun
  · exact oneContent?_ne_document _ v fields nofun
  · exact trueContent?_ne_document _ v fields nofun

/-- If entries are read as a document, the first of them is an ordinary one. -/
theorem ordinary_of_decodeFields? (done fields : Document) (name : String) (v : Value)
    (rest : Document) (h : decodeFields? done ((name, v) :: rest) = some (.document fields)) :
    marksForm name = false := by
  rw [marksForm_eq_false_iff]
  -- Code is made of one entry or of two, and neither way is it a document.
  have hcode : name ≠ "$code" := by
    rintro rfl
    rw [decodeFields?.eq_def] at h
    simp only [if_true] at h
    split at h
    · split at h
      · cases h
      · cases h
    · split at h
      · exact scoped?_ne_document _ _ _ h
      · cases h
  -- So is a scope that comes first.
  have hscope : name ≠ "$scope" := by
    rintro rfl
    rw [decodeFields?.eq_def] at h
    simp only [if_neg (by decide : ¬ "$scope" = "$code"), if_true] at h
    split at h
    · cases h
    · split at h
      · exact scoped?_ne_document _ _ _ h
      · cases h
  refine ⟨hcode, hscope, ?_⟩
  rcases hread : contentReader? name with _ | read?
  · rfl
  · -- A form of another kind would have decided what the entries stand for.
    rw [decodeFields?_marked done name v rest read? hcode hscope hread] at h
    exact absurd h (ne_document_of_contentReader? name read? v fields hread)

/-- What is under a name when entries have been read as a document: what the
    entries have there, decoded, or else what has been there before. -/
theorem get?_of_decodeFields? (entries : Document) (hentries : entries.Distinct)
    (done fields : Document) (h : decodeFields? done entries = some (.document fields))
    (name : String) :
    Document.get? fields name =
      if name ∈ entries.keys then (entries.get? name).bind decode?
      else Document.get? done name := by
  -- By the entries that are still to be read, for whatever has been read before.
  induction entries generalizing done with
  | nil =>
      rw [decodeFields?.eq_def] at h
      cases h
      rfl
  | cons entry entries ih =>
      rcases entry with ⟨k, v⟩
      -- The result is a document, so this name is an ordinary one.
      rcases (marksForm_eq_false_iff k).mp
        (ordinary_of_decodeFields? done fields k v entries h) with ⟨hcode, hscope, hread⟩
      rw [decodeFields?_cons done k v entries hcode hscope hread] at h
      rcases Option.bind_eq_some_iff.mp h with ⟨w, hw, hrest⟩
      have hdistinct : k ∉ Document.keys entries ∧ (Document.keys entries).Nodup :=
        List.nodup_cons.mp hentries
      have hmem : name ∈ Document.keys ((k, v) :: entries) ↔
          name = k ∨ name ∈ Document.keys entries := List.mem_cons
      rw [ih hdistinct.2 _ hrest, Document.get?]
      by_cases hk : k = name
      · -- The entry is the only one with this name, so its value stays.
        subst hk
        rw [if_neg hdistinct.1, if_pos (hmem.mpr (Or.inl rfl)), if_pos rfl,
          Document.get?_insert_self, Option.bind_some, hw]
      · simp only [hmem, if_neg hk, Ne.symm hk, false_or,
          Document.get?_insert_of_ne done k name w (Ne.symm hk)]

end Value

namespace Document

/-- What is under a name of a decoded document is what was there, decoded. -/
theorem get?_decode? (d e : Document) (hd : d.Distinct) (h : decode? d = some e)
    (name : String) : e.get? name = (d.get? name).bind Value.decode? := by
  -- A document decodes to a document only if its entries do.
  have hdecode : Value.decodeFields? [] d = some (.document e) := by
    unfold decode? at h
    split at h
    · rename_i fields hfields
      rw [← Option.some.inj h]
      exact hfields
    · cases h
  rw [Value.get?_of_decodeFields? d hd [] e hdecode name]
  split
  · rfl
  · rename_i hname
    rw [(get?_eq_none_iff d name).mpr hname]
    rfl

end Document

end DocQuery
