import Mathlib
import ApiChain.Proofs.Json.Shape
import ApiChain.Proofs.Plan.Urls
import ApiChain.Proofs.Template.Passes

/-!
# What every request of a definition shares

A definition gives its requests their frame: its identifier and method, its headers as written, the
names of its parameters and the shape of its body. The stored responses show in the URL, in the values
of the query and in the strings of the body, and nowhere else. In particular no response makes a
parameter `null`, so none leaves one out.

* **`sentNames_fillMembers`**: filling keeps the names that are sent;
* **`framedBy_assemble`**: a request has the frame if its parameters send the names of the definition's
  and its body has the shape of the definition's;
* **`requests_framed`** says so of every request that is planned, and of any two of them.
-/

namespace ApiChain

open Template (fillMembers fillMembers_eq_map fillJson fillJson_eq_mapTexts)

/-! ## Frames -/

/-- The names of the parameters that are not `null`, in order. -/
def sentNames (parameters : Members) : List String :=
  (parameters.filter fun p => p.2 ≠ .null).map Prod.fst

namespace Request

/-- The request is the definition's up to its URL, the values in its query and the strings in its
body. -/
structure FramedBy (r : Request) (d : Definition) : Prop where
  api : r.api = d.id
  method : r.method = d.method
  headers : r.headers = d.headers.map fun h => (h.1, h.2.plain)
  names : r.query.map Prod.fst = sentNames d.parameters
  body : r.body.map Json.shape = d.body.map Json.shape

/-- The requests are the same up to their URLs, the values in their queries and the strings in their
bodies. -/
structure SameFrame (r r' : Request) : Prop where
  api : r.api = r'.api
  method : r.method = r'.method
  headers : r.headers = r'.headers
  names : r.query.map Prod.fst = r'.query.map Prod.fst
  body : r.body.map Json.shape = r'.body.map Json.shape

theorem FramedBy.sameFrame {r r' : Request} {d : Definition} (h : r.FramedBy d)
    (h' : r'.FramedBy d) : r.SameFrame r' where
  api := h.api.trans h'.api.symm
  method := h.method.trans h'.method.symm
  headers := h.headers.trans h'.headers.symm
  names := h.names.trans h'.names.symm
  body := h.body.trans h'.body.symm

end Request

/-! ## Filling keeps the frame -/

theorem shape_fillJson (payload : Json) (api : String) (j : Json) :
    (fillJson payload api j).shape = j.shape := by
  rw [fillJson_eq_mapTexts, Json.shape_mapTexts]

theorem sentNames_fillMembers (payload : Json) (api : String) (parameters : Members) :
    sentNames (fillMembers payload api parameters) = sentNames parameters := by
  -- a filled value is `null` only if it was before, so the filter takes the same parameters
  have hnull : ∀ j : Json, fillJson payload api j = .null ↔ j = .null := fun j =>
    Json.eq_null_iff_of_shape (shape_fillJson payload api j)
  rw [fillMembers_eq_map]
  simp only [sentNames, List.filter_map, List.map_map, Function.comp_def, ne_eq, hnull]

namespace Definition

theorem framedBy_assemble {d : Definition} {path : String} {parameters : Members}
    {body : Option Json} (hnames : sentNames parameters = sentNames d.parameters)
    (hbody : body.map Json.shape = d.body.map Json.shape) :
    (d.assemble path parameters body).FramedBy d where
  api := rfl
  method := rfl
  headers := rfl
  names := by
    have hsent : ∀ p : String × Json, (!p.2.isNull) = decide (p.2 ≠ .null) := by
      rintro ⟨name, value⟩
      cases value <;> rfl
    rw [← hnames, sentNames, assemble, List.map_map, List.filter_congr fun p _ => hsent p]
    rfl
  body := hbody

theorem framedBy_plainRequest (d : Definition) : d.plainRequest.FramedBy d :=
  framedBy_assemble rfl rfl

theorem framedBy_filledRequest (d : Definition) (dependency : String) (payload : Json) :
    (d.filledRequest dependency payload).FramedBy d := by
  apply framedBy_assemble
  · exact sentNames_fillMembers payload dependency d.parameters
  · rw [Option.map_map]
    congr 1
    funext j
    exact shape_fillJson payload dependency j

end Definition

/-! ## Plans -/

namespace Plan

theorem framedBy_of_mem {d : Definition} {store : Store} {r : Request}
    (h : r ∈ (of d store).requests) : r.FramedBy d := by
  rcases eq_request_of_mem h with rfl | ⟨payload, dependency, rfl⟩
  · exact d.framedBy_plainRequest
  · exact d.framedBy_filledRequest dependency payload

/-- **A plan changes values, never the frame of a request.** Whatever is stored, a request has the
identifier, the method and the headers of its definition, the names of the parameters that are not
`null`, in their order, and a body exactly if the definition has one, of the same shape. So these are the
same in all requests of a plan, and in the plans from any two stores. -/
theorem requests_framed (d : Definition) (store : Store) (r : Request)
    (hr : r ∈ (of d store).requests) :
    r.FramedBy d ∧ ∀ (other : Store), ∀ r' ∈ (of d other).requests, r.SameFrame r' := by
  have hframed := framedBy_of_mem hr
  refine ⟨hframed, ?_⟩
  intro other r' hr'
  exact hframed.sameFrame (framedBy_of_mem hr')

/-- Orders the goods of each user. A header and a key hold placeholders, and one parameter is not
set. -/
def orders : Definition :=
  { (Definition.basic "orders" .post "api.test" "/o").withPrevious "users" with
    parameters := [("user", .string "{{users.data[*].id}}"), ("page", .null), ("limit", .ofNat 5)]
    headers := [("X-User", .string "{{users.data[*].id}}")]
    body := some (.object [("{{users.id}}", .array [.string "{{users.data[*].id}}", .null])]) }

/-- Two users, one of them without an identifier. -/
def storedUsers : Store := ⟨[("users", .array [.object [("id", .ofNat 7)], .object [("id", .null)]])]⟩

/-- The second of two requests, and the one that is sent when nothing is stored. -/
theorem requests_framed_orders :
    ∃ r, (of orders storedUsers).requests[1]? = some r ∧
      r.query = [("user", ""), ("limit", "5")] ∧
      r.headers = [("X-User", "{{users.data[*].id}}")] ∧
      r.SameFrame orders.plainRequest := by
  have hrequest : ∃ r, (of orders storedUsers).requests[1]? = some r ∧
      r.query = [("user", ""), ("limit", "5")] := ⟨_, by cbv, by cbv⟩
  obtain ⟨r, hr, hquery⟩ := hrequest
  have hplain : orders.plainRequest ∈ (of orders Store.empty).requests := by
    have hempty : of orders Store.empty = .single orders.plainRequest := rfl
    rw [hempty]
    exact List.mem_singleton_self _
  obtain ⟨hframed, hsame⟩ := requests_framed orders storedUsers r (List.mem_of_getElem? hr)
  refine ⟨r, hr, hquery, ?_, hsame Store.empty _ hplain⟩
  rw [hframed.headers]
  cbv

end Plan

end ApiChain
