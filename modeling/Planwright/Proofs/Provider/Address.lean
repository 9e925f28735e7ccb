import Planwright.Proofs.Provider.Building
import Planwright.Proofs.Text.Percent

set_option autoImplicit false

/-!
# Addresses taken apart

An address is cut at its first question mark, the query behind it at the ampersands, and each piece
at its first equals sign.  Names and values are encoded, so that none of these signs comes from
them: taking an address apart gives back what it was put together from (`takeApart_fullUrl`), and
values in the path bring no further slash with them.  No parameter can change the structure of a
request (`parameters_keep_structure`).
-/

namespace Planwright.Request

/-! ## Values in a path -/

/-- The signs at which addresses are cut. -/
def cutSigns : List Char := ['/', '?', '#', '&', '=']

/-- The text stands for the value: decoded, it is the value as it is shown, and none of the signs at
which addresses are cut is in it. -/
structure Carries (text : List Char) (v : Value) : Prop where
  decoded : Text.percentDecode? text = some v.shown
  noCut : ∀ c ∈ cutSigns, c ∉ text

theorem reserved_of_mem_cutSigns {c : Char} (h : c ∈ cutSigns) :
    Text.isUnreserved c = false ∧ c ≠ '%' := by
  simp only [cutSigns, List.mem_cons, List.not_mem_nil, or_false] at h
  rcases h with rfl | rfl | rfl | rfl | rfl <;> decide

theorem cutSign_not_mem_percentEncode {c : Char} (h : c ∈ cutSigns) (s : List Char) :
    c ∉ Text.percentEncode s :=
  Text.not_mem_percentEncode (reserved_of_mem_cutSigns h).1 (reserved_of_mem_cutSigns h).2 s

theorem Encodes.carries {text : List Char} {v : Value} (h : Encodes text v) : Carries text v := by
  obtain rfl := h
  exact ⟨Text.percentDecode?_percentEncode v.shown, fun c hc => cutSign_not_mem_percentEncode hc _⟩

/-- Joining an address and a path brings slashes only. -/
theorem not_mem_joinPath {c : Char} {base path : List Char} (hslash : c ≠ '/') (hbase : c ∉ base)
    (hpath : c ∉ path) : c ∉ joinPath base path := by
  unfold joinPath
  split <;> simp_all

/-! ## The query -/

/-- The name and the value of a piece of a query. -/
def readPair? (piece : List Char) : Option (String × String) :=
  match Text.cutAt '=' piece with
  | none => none
  | some (name, value) =>
    match Text.percentDecode? name, Text.percentDecode? value with
    | some n, some v => some (n, v)
    | _, _ => none

/-- What stands before the first question mark of an address, and the pairs behind it. -/
def takeApart (address : String) : String × List (Option (String × String)) :=
  match Text.cutAt '?' address.toList with
  | none => (address, [])
  | some (url, query) => (String.ofList url, (query.splitOn '&').map readPair?)

theorem readPair?_queryText (p : String × String) : readPair? (queryText p) = some p := by
  have hname : '=' ∉ Text.percentEncode p.1.toList := cutSign_not_mem_percentEncode (by decide) _
  rw [readPair?, queryText, Text.cutAt_append hname]
  simp only [Text.percentDecode?_percentEncode]

theorem not_mem_queryText (p : String × String) : '&' ∉ queryText p := by
  have hencoded (s : List Char) : '&' ∉ Text.percentEncode s :=
    cutSign_not_mem_percentEncode (by decide) s
  rw [queryText, List.mem_append, List.mem_cons, not_or, not_or]
  exact ⟨hencoded _, by decide, hencoded _⟩

theorem toList_fullUrl_of_query {r : Request} (h : r.query ≠ []) :
    r.fullUrl.toList
      = r.url.toList ++ '?' :: ['&'].intercalate (r.query.map queryText) := by
  rw [fullUrl, if_neg (by simpa using h), String.toList_append, String.toList_ofList]

theorem fullUrl_of_no_query {r : Request} (h : r.query = []) : r.fullUrl = r.url := by
  rw [fullUrl, h]
  rfl

/-- Taking an address apart gives back the pairs that its query was made of. -/
theorem takeApart_fullUrl {r : Request} (h : '?' ∉ r.url.toList) :
    takeApart r.fullUrl = (r.url, r.query.map some) := by
  by_cases hquery : r.query = []
  · rw [fullUrl_of_no_query hquery, takeApart, Text.cutAt_eq_none_iff.2 h, hquery]
    rfl
  · have hpieces : ∀ piece ∈ r.query.map queryText, '&' ∉ piece := by
      intro piece hmem
      obtain ⟨p, -, rfl⟩ := List.mem_map.1 hmem
      exact not_mem_queryText p
    have hne : r.query.map queryText ≠ [] := by simpa using hquery
    rw [takeApart, toList_fullUrl_of_query hquery, Text.cutAt_append h]
    dsimp only
    rw [String.ofList_toList, List.splitOn_intercalate '&' hpieces hne, List.map_map]
    exact congrArg _ (List.map_congr_left fun p _ => readPair?_queryText p)

theorem mem_fullUrl_iff {r : Request} (h : '?' ∉ r.url.toList) :
    '?' ∈ r.fullUrl.toList ↔ r.query ≠ [] := by
  by_cases hquery : r.query = []
  · rw [fullUrl_of_no_query hquery]
    exact iff_of_false h fun hne => hne hquery
  · rw [toList_fullUrl_of_query hquery]
    exact iff_of_true (by simp) hquery

/-! ## Requests that were built -/

/-- **Parameters keep the structure.**  If neither the address of a provider nor the path of an
endpoint has a question mark, then in every request that is built the path is that of the endpoint
with a text for each parameter in braces that decodes to its value and brings none of the signs at
which addresses are cut; the address so made has no question mark; and the whole address with its
query, taken apart, gives back the address and exactly the pairs of the query, in their order. -/
theorem parameters_keep_structure {provider : String} {manifest : Manifest} {spec : CallSpec}
    {timeoutMs : Nat} {r : Request} {path : String}
    (hbuilt : build provider manifest spec timeoutMs = .ok r)
    (hpath : manifest.endpoints.get? spec.endpoint = some path)
    (hbase : '?' ∉ manifest.baseAddress.toList) (hplain : '?' ∉ path.toList) :
    (∃ parts filled, Divided path.toList parts ∧ Filled Carries spec.params parts filled ∧
        r.url = String.ofList (joinPath manifest.baseAddress.toList filled)) ∧
      '?' ∉ r.url.toList ∧ takeApart r.fullUrl = (r.url, r.query.map some) ∧
      ('?' ∈ r.fullUrl.toList ↔ r.query ≠ []) := by
  obtain ⟨path', parts, filled, hpath', hdivided, -, hfilled, rfl⟩ := build_eq_ok_iff.1 hbuilt
  obtain rfl : path = path' := Option.some.inj (hpath.symm.trans hpath')
  have hcarries : Filled Carries spec.params parts filled :=
    hfilled.mono fun _ _ => Encodes.carries
  have hfree : '?' ∉ filled :=
    hcarries.not_mem (fun _ _ hstands => hstands.noCut '?' (by decide)) (hdivided.written ▸ hplain)
  have hurl : '?' ∉ (String.ofList (joinPath manifest.baseAddress.toList filled)).toList := by
    rw [String.toList_ofList]
    exact not_mem_joinPath (by decide) hbase hfree
  exact ⟨⟨parts, filled, hdivided, hcarries, rfl⟩, hurl, takeApart_fullUrl hurl,
    mem_fullUrl_iff hurl⟩

/-- Every sign at which addresses are cut, in a name, in a value of the query and in the path. -/
theorem parameters_keep_structure_signs : ∃ r,
    build "alpha" (serviceAt "/of/\x7bid\x7d" none)
        ⟨"find", [("a=b&c", .text "1&2=?ü"), ("id", .text "x/y?z#")], .get, none⟩ 5 = .ok r ∧
      '?' ∉ r.url.toList ∧ takeApart r.fullUrl = (r.url, [some ("a=b&c", "1&2=?ü")]) := by
  have hparts : [.plain "/of/".toList, .param "id", .plain []]
      = pathParts "/of/\x7bid\x7d".toList := by decide +kernel
  obtain ⟨r, hbuilt, hquery⟩ : ∃ r,
      build "alpha" (serviceAt "/of/\x7bid\x7d" none)
        ⟨"find", [("a=b&c", .text "1&2=?ü"), ("id", .text "x/y?z#")], .get, none⟩ 5 = .ok r ∧
      r.query = [("a=b&c", "1&2=?ü")] := by
    rw [build_of_endpoint rfl, ← hparts]
    exact ⟨_, rfl, rfl⟩
  obtain ⟨-, hurl, happart, -⟩ :=
    parameters_keep_structure hbuilt rfl (by decide) (by decide)
  rw [hquery] at happart
  exact ⟨r, hbuilt, hurl, happart⟩

end Planwright.Request
