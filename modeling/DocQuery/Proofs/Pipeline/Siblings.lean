import DocQuery.Proofs.Pipeline.Delivery
import DocQuery.Proofs.Value.Removal

/-!
# Beside a Join

Joining and unwinding write at one path. What is found at a path that parts from
it stays, whatever kind of value lies on the way, with one exception: if an array
lies on the way of both paths, a fresh document takes its place, and what was
read through the array is gone.

A join always writes. Unwinding writes only where it finds an array with items,
and it also finds one where the path crosses an array. Where it finds an empty
array it removes it at the most, and removing disturbs nothing elsewhere.

A path that parts from another is read at the place where they part, or beneath
it. Whether an array is shared is decided above that place, and so is what
writing does to it: it goes down along its own path, replaces an array on the
way by a document with the one name it needs, and leaves every other entry of
the documents on the way in place.

## Main definitions

* `Document.JoinsInto`, `Value.Unwinds`: The written forms of the two stages.
* `Document.KeepsUnless`: A document has what another one has at a path, or has
  lost it.

## Theorems

* `Join.keepsUnless_apply`, `keepsUnless_of_mem_unwind`: What joining and
  unwinding do to a document elsewhere.
* `Stage.run_keeps_elsewhere`: What the stages keep elsewhere.
* `Stage.run_join_into_array`: What a join into the items of an array loses.
-/

namespace DocQuery

/-- Does a document write a join whose result goes to a path? -/
def Document.JoinsInto (spec : Document) (target : String) : Prop :=
  (∀ name ∈ ["from", "localField", "foreignField"], ∃ s, spec.get? name = some (.string s)) ∧
    spec.get? "as" = some (.string target)

/-- Does a value write the unwinding of a path? -/
def Value.Unwinds (v : Value) (target : String) : Prop :=
  v = .string ("$" ++ target) ∨
    ∃ fields, v = .document fields ∧ Document.get? fields "path" = some (.string ("$" ++ target))

/-- Does a document have what another one has at a path? Under a condition it has
    lost what was there, which is an array then. -/
def Document.KeepsUnless (d out : Document) (path : Path) (lost : Prop) : Prop :=
  (¬ lost → out.at? path = d.at? path) ∧ (lost → d.HasArrayAt path ∧ out.at? path = none)

namespace Document

/-- Writing keeps what is elsewhere, unless an array is on the way of both. -/
theorem keepsUnless_setAt (d : Document) (p q : Path) (v : Value) (h : p.Diverges q) :
    d.KeepsUnless (d.setAt p v) q (d.SharesArray p q) := by
  refine ⟨at?_setAt_of_not_sharesArray d p q v h, fun hshares => ?_⟩
  refine ⟨?_, at?_setAt_of_sharesArray d p q v h hshares⟩
  rcases hshares with ⟨shared, -, hq, harray⟩
  exact hasArrayAt_beneath d shared q hq harray

theorem keepsUnless_of_at?_eq (d out : Document) (path : Path) (lost : Prop) (h : ¬ lost)
    (hat : out.at? path = d.at? path) : d.KeepsUnless out path lost :=
  ⟨fun _ => hat, fun hlost => absurd hlost h⟩

end Document

/-- A join keeps what is elsewhere, unless an array is on the way of both. -/
theorem Join.keepsUnless_apply (j : Join) (foreign : List Document) (d : Document) (q : Path)
    (h : j.target.Diverges q) :
    d.KeepsUnless (j.apply foreign d) q (d.SharesArray j.target q) :=
  Document.keepsUnless_setAt d j.target q _ h

/-- What unwinding makes of a document: it writes one of the items it has found,
    removes an empty array, or leaves a document without an array as it is. -/
theorem mem_unwind_cases (p : Path) (keepEmpty : Bool) (d out : Document)
    (h : out ∈ unwind p keepEmpty d) :
    (∃ v items item, d.at? p = some (.array (v :: items)) ∧ out = d.setAt p item) ∨
      d.at? p = some (.array []) ∧ out = d.removeAt p ∨ ¬ d.HasArrayAt p ∧ out = d := by
  have hsame : ∀ rows : List Document, rows ⊆ [d] → out ∈ rows → out = d :=
    fun rows hrows hmem => List.mem_singleton.mp (hrows hmem)
  have hkept : (if keepEmpty then [d] else []) ⊆ [d] := by
    split
    · exact List.Subset.refl _
    · exact List.nil_subset _
  -- The cases are those of the value that is found: items, no items, null, nothing, and
  -- anything else.
  unfold unwind at h
  split at h
  · rename_i v items hat
    rcases List.mem_map.mp h with ⟨item, -, rfl⟩
    exact Or.inl ⟨v, items, item, hat, rfl⟩
  · rename_i hat
    split at h
    · exact Or.inr (Or.inl ⟨hat, List.mem_singleton.mp h⟩)
    · cases h
  · rename_i hat
    refine Or.inr (Or.inr ⟨?_, hsame _ hkept h⟩)
    rintro ⟨items, harray⟩
    rw [harray] at hat
    cases hat
  · rename_i hat
    refine Or.inr (Or.inr ⟨?_, hsame _ hkept h⟩)
    rintro ⟨items, harray⟩
    rw [harray] at hat
    cases hat
  · rename_i v hcons hnil hnull hat
    refine Or.inr (Or.inr ⟨?_, List.mem_singleton.mp h⟩)
    rintro ⟨items, harray⟩
    have hv := Option.some.inj (hat.symm.trans harray)
    rcases items with _ | ⟨w, items⟩
    · exact hnil hv
    · exact hcons w items hv

/-- Unwinding keeps what is elsewhere, unless there are items to unwind and an
    array is on the way of both. -/
theorem keepsUnless_of_mem_unwind (p : Path) (keepEmpty : Bool) (d out : Document) (q : Path)
    (h : p.Diverges q) (hout : out ∈ unwind p keepEmpty d) :
    d.KeepsUnless out q
      (d.SharesArray p q ∧ ∃ v items, d.at? p = some (.array (v :: items))) := by
  rcases mem_unwind_cases p keepEmpty d out hout with ⟨v, items, item, hat, rfl⟩ | ⟨hat, rfl⟩ |
    ⟨harray, rfl⟩
  · -- An item is written, so what is lost depends on the shared array alone.
    have hitems : ∃ v items, d.at? p = some (.array (v :: items)) := ⟨v, items, hat⟩
    rw [and_iff_left hitems]
    exact Document.keepsUnless_setAt d p q item h
  · -- An empty array is removed, which loses nothing elsewhere, even behind an array.
    refine Document.keepsUnless_of_at?_eq d _ q _ (fun hlost => ?_)
      (Document.at?_removeAt_of_diverges d p q h)
    rcases hlost.2 with ⟨v, items, hitems⟩
    rw [hat] at hitems
    cases hitems
  · refine Document.keepsUnless_of_at?_eq out out q _ (fun hlost => ?_) rfl
    rcases hlost.2 with ⟨v, items, hitems⟩
    exact harray ⟨_, hitems⟩

namespace Stage

theorem ofDocument_lookup (spec : Document) (target : String) (h : spec.JoinsInto target) :
    ∃ j : Join, Stage.ofDocument (Listing.stage "$lookup" spec) = .lookup j ∧
      j.target = Path.ofString target := by
  rcases h with ⟨hnames, htarget⟩
  simp only [List.forall_mem_cons] at hnames
  rcases hnames with ⟨⟨source, hsource⟩, ⟨own, hown⟩, ⟨other, hother⟩, -⟩
  refine ⟨⟨source, Path.ofString own, Path.ofString other, Path.ofString target⟩, ?_, rfl⟩
  have hjoin : readJoin spec =
      .ok ⟨source, Path.ofString own, Path.ofString other, Path.ofString target⟩ := by
    simp [readJoin, textUnder, hsource, hown, hother, htarget, Bind.bind, Except.bind, pure,
      Except.pure]
  simp [Listing.stage, Stage.ofDocument, Stage.ofEntry, Stage.ofFields, Stage.ofExcept, hjoin]

theorem ofDocument_unwind (v : Value) (target : String) (h : v.Unwinds target) :
    ∃ keepEmpty, Stage.ofDocument [("$unwind", v)] =
      .unwind (Path.ofString target) keepEmpty := by
  have hmarked : Expression.marked? ("$" ++ target) = some (Path.ofString target) := by
    simp [Expression.marked?]
  rcases h with rfl | ⟨fields, rfl, hpath⟩
  · exact ⟨false, by
      simp [Stage.ofDocument, Stage.ofEntry, Stage.ofUnwindArgument, Stage.ofUnwindPath, hmarked]⟩
  · exact ⟨_, by
      simp only [Stage.ofDocument, Stage.ofEntry, Stage.ofUnwindArgument, Stage.ofUnwindPath,
        hmarked, hpath]
      rfl⟩

/-- A join and an unwinding at one path go over the documents one by one, and keep
    what is found at a path that parts from it. They lose it exactly if an array
    is on the way of both paths; unwinding only if there are items to unwind,
    too. -/
theorem run_keeps_elsewhere (collection : String → List Document) (target : String) (q : Path)
    (h : (Path.ofString target).Diverges q) :
    (∀ spec : Document, spec.JoinsInto target → ∃ join : Document → Document,
      (∀ docs, Stage.run collection (Stage.ofDocument (Listing.stage "$lookup" spec)) docs =
        .ok (docs.map join)) ∧
      ∀ d : Document, d.KeepsUnless (join d) q (d.SharesArray (Path.ofString target) q)) ∧
    (∀ v : Value, v.Unwinds target → ∃ rows : Document → List Document,
      (∀ docs, Stage.run collection (Stage.ofDocument [("$unwind", v)]) docs =
        .ok (docs.flatMap rows)) ∧
      ∀ d : Document, ∀ out ∈ rows d, d.KeepsUnless out q (d.SharesArray (Path.ofString target) q ∧
        ∃ first items, d.at? (Path.ofString target) = some (.array (first :: items)))) := by
  constructor
  · intro spec hspec
    rcases ofDocument_lookup spec target hspec with ⟨j, hj, htarget⟩
    rw [← htarget] at h ⊢
    refine ⟨j.apply (collection j.collection), fun docs => ?_, fun d => ?_⟩
    · rw [hj, Stage.run]
    · exact j.keepsUnless_apply _ d q h
  · intro v hv
    rcases ofDocument_unwind v target hv with ⟨keepEmpty, hunwind⟩
    refine ⟨DocQuery.unwind (Path.ofString target) keepEmpty, fun docs => ?_, fun d out hout => ?_⟩
    · rw [hunwind, Stage.run]
    · exact keepsUnless_of_mem_unwind _ keepEmpty d out q h hout

/-- A join of prices into the items of a cart. -/
def priceJoin : Document :=
  [("from", .string "prices"), ("localField", .string "items.sku"),
    ("foreignField", .string "sku"), ("as", .string "items.price")]

/-- A cart with a single item, which is not in an array. -/
def singleCart : Document :=
  [("_id", .int32 8), ("items", .document [("sku", .string "a1")])]

theorem joinsInto_priceJoin : priceJoin.JoinsInto "items.price" := by
  refine ⟨fun name hname => ?_, by rfl⟩
  simp only [List.mem_cons, List.not_mem_nil, or_false] at hname
  rcases hname with rfl | rfl | rfl
  · exact ⟨_, rfl⟩
  · exact ⟨_, rfl⟩
  · exact ⟨_, rfl⟩

/-- Prices that are joined into a single item leave its other fields alone. From
    items in an array they take them all, and so does unwinding the prices. -/
theorem run_keeps_elsewhere_carts :
    (Path.ofString "items.price").Diverges ["items", "sku"] ∧
      (∃ join : Document → Document,
        Stage.run (fun _ => []) (Stage.ofDocument (Listing.stage "$lookup" priceJoin))
          [singleCart, cart] = .ok [join singleCart, join cart] ∧
        (join singleCart).at? ["items", "sku"] = some (.string "a1") ∧
        (join cart).at? ["items", "sku"] = none) ∧
      ∃ outs, Stage.run (fun _ => []) (Stage.ofDocument [("$unwind", .string "$items.price")])
        [cart] = .ok outs ∧ ∀ out ∈ outs, out.at? ["items", "sku"] = none := by
  have happart : (Path.ofString "items.price").Diverges ["items", "sku"] := by decide
  have hprice : Path.ofString "items.price" = ["items", "price"] := by decide
  have hshares : cart.SharesArray (Path.ofString "items.price") ["items", "sku"] := by
    rw [hprice]
    exact ⟨["items"], ⟨["price"], rfl⟩, ⟨["sku"], rfl⟩, _, rfl⟩
  -- The items are a document here, so the path to the prices is straight.
  have hsingle : ¬ singleCart.SharesArray (Path.ofString "items.price") ["items", "sku"] := by
    rw [hprice]
    exact Document.not_sharesArray_of_straight _ _ _ (hprice ▸ happart)
      (Or.inl ⟨nofun, trivial⟩)
  rcases run_keeps_elsewhere (fun _ => []) "items.price" ["items", "sku"] happart with
    ⟨hjoin, hunwind⟩
  rcases hjoin priceJoin joinsInto_priceJoin with ⟨join, hrun, hkeeps⟩
  rcases hunwind (.string "$items.price") (Or.inl rfl) with ⟨rows, hrows, hlost⟩
  refine ⟨happart, ⟨join, hrun _, ?_, ((hkeeps cart).2 hshares).2⟩, _, hrows [cart], ?_⟩
  · rw [(hkeeps singleCart).1 hsingle]
    rfl
  · intro out hout
    rw [List.flatMap_singleton] at hout
    refine ((hlost cart out hout).2 ⟨hshares, .int32 3, [], ?_⟩).2
    rw [hprice]
    rfl

/-- The prices and the numbers of the items are apart, and still the numbers are
    gone when prices are joined in. -/
theorem run_join_into_array :
    (Path.ofString "items.price").Diverges ["items", "sku"] ∧
      cart.at? ["items", "sku"] = some (.array [.string "a1", .string "b2"]) ∧
      ∃ out, Stage.run (fun _ => []) (Stage.ofDocument (Listing.stage "$lookup" priceJoin)) [cart] =
        .ok [out] ∧ out.at? ["items", "sku"] = none := by
  have hrun : Stage.run (fun _ => []) (Stage.ofDocument (Listing.stage "$lookup" priceJoin))
      [cart] = .ok [[("name", .string "Ann"), ("_id", .int32 7),
        ("items", .document [("price", .array [])])]] := by rfl
  exact ⟨by decide, by rfl, _, hrun, by rfl⟩

end Stage

end DocQuery
