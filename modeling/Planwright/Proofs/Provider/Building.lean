import Planwright.Proofs.Provider.Filling

set_option autoImplicit false

/-!
# Building requests

A request is built exactly if the endpoint exists and its path can be filled (`build_succeeds_iff`).
A parameter with a value is not enough for a path that names it twice: it is used up by its first
place and reported as missing at the second.

The parameters that the path does not name, null ones apart, become the query, and a key that is
sent as a query parameter is put behind them.  Nothing keeps a call from bringing a parameter of the
same name, which then stands before the key (`credential_alone_iff`).
-/

namespace Planwright

open Fallible

/-- Whether a value is null. -/
def Value.isNull : Value → Bool
  | .null => true
  | _ => false

theorem Value.isNull_eq_true_iff {v : Value} : v.isNull = true ↔ v = .null := by
  cases v <;> simp [isNull]

namespace Request

/-- The query that a call brings: the parameters that are not null and that the path does not name,
as they are shown. -/
def ownQuery (params : Dict Value) (names : List String) : List (String × String) :=
  (params.filter fun e => e.1 ∉ names ∧ e.2.isNull = false).map fun e => (e.1, e.2.shown)

/-- The request of a call whose path was filled, with the key put behind the call's own query. -/
def assembled (provider : String) (manifest : Manifest) (spec : CallSpec) (timeoutMs : Nat)
    (names : List String) (filled : List Char) : Request where
  provider := provider
  method := spec.method
  url := String.ofList (joinPath manifest.baseAddress.toList filled)
  query := ownQuery spec.params names ++ authQuery manifest.auth
  headers := authHeaders manifest.auth
  body := spec.body
  timeoutMs := timeoutMs

theorem queryOf_eq (params : Dict Value) :
    queryOf params = (params.filter fun e => !e.2.isNull).map fun e => (e.1, e.2.shown) := by
  induction params with
  | nil => rfl
  | cons e params ih =>
      obtain ⟨name, v⟩ := e
      rw [queryOf] at ih ⊢
      cases v <;> simp [Value.isNull, ih]

theorem queryOf_filter (params : Dict Value) (names : List String) :
    queryOf (params.filter fun e => e.1 ∉ names) = ownQuery params names := by
  rw [queryOf_eq, List.filter_filter, ownQuery]
  refine congrArg (List.map _) (List.filter_congr fun e _ => ?_)
  cases e.2.isNull <;> simp

section Building

variable {provider : String} {manifest : Manifest} {spec : CallSpec} {timeoutMs : Nat}

theorem build_of_no_endpoint (h : manifest.endpoints.get? spec.endpoint = none) :
    build provider manifest spec timeoutMs = .error (.noEndpoint provider spec.endpoint) := by
  rw [build, h]

theorem build_of_endpoint {path : String}
    (h : manifest.endpoints.get? spec.endpoint = some path) :
    build provider manifest spec timeoutMs
      = (fillParts spec.params (pathParts path.toList)).map fun p =>
          ⟨provider, spec.method, String.ofList (joinPath manifest.baseAddress.toList p.1),
            queryOf p.2 ++ authQuery manifest.auth, authHeaders manifest.auth, spec.body,
            timeoutMs⟩ := by
  rw [build, h]
  dsimp only
  cases fillParts spec.params (pathParts path.toList) <;> rfl

/-- What is built: the address with the filled path, and the query of the call with the key behind
it. -/
theorem build_eq_ok_iff {r : Request} :
    build provider manifest spec timeoutMs = .ok r ↔
      ∃ path parts filled, manifest.endpoints.get? spec.endpoint = some path ∧
        Divided path.toList parts ∧ (paramNames parts).Nodup ∧
        Filled Encodes spec.params parts filled ∧
        r = assembled provider manifest spec timeoutMs (paramNames parts) filled := by
  cases hpath : manifest.endpoints.get? spec.endpoint with
  | none =>
      rw [build_of_no_endpoint hpath]
      constructor
      · intro h
        cases h
      · rintro ⟨path, _, _, h, -⟩
        cases h
  | some path =>
      rw [build_of_endpoint hpath, map_eq_ok]
      constructor
      · rintro ⟨⟨filled, left⟩, hfill, rfl⟩
        obtain ⟨hnodup, hfilled, rfl⟩ := fillParts_eq_ok_iff.1 hfill
        exact ⟨path, _, filled, rfl, divided_pathParts path.toList, hnodup, hfilled,
          by rw [queryOf_filter, assembled]⟩
      · rintro ⟨_, parts, filled, hsome, hdivided, hnodup, hfilled, rfl⟩
        obtain rfl := Option.some.inj hsome
        obtain rfl := divided_iff.1 hdivided
        exact ⟨(filled, _), fillParts_eq_ok_iff.2 ⟨hnodup, hfilled, rfl⟩,
          by rw [queryOf_filter, assembled]⟩

theorem build_eq_error_iff {f : Fault} :
    build provider manifest spec timeoutMs = .error f ↔
      (manifest.endpoints.get? spec.endpoint = none ∧ f = .noEndpoint provider spec.endpoint) ∨
        ∃ path parts name, manifest.endpoints.get? spec.endpoint = some path ∧
          Divided path.toList parts ∧ FirstMissing spec.params parts name ∧
          f = .missingParameter name := by
  cases hpath : manifest.endpoints.get? spec.endpoint with
  | none =>
      rw [build_of_no_endpoint hpath]
      constructor
      · intro h
        exact .inl ⟨rfl, (Except.error.inj h).symm⟩
      · rintro (⟨-, rfl⟩ | ⟨path, _, _, h, -⟩)
        · rfl
        · cases h
  | some path =>
      rw [build_of_endpoint hpath, map_eq_error, fillParts_eq_error_iff]
      constructor
      · rintro ⟨name, hmissing, rfl⟩
        exact .inr ⟨path, _, name, rfl, divided_pathParts path.toList, hmissing, rfl⟩
      · rintro (⟨h, -⟩ | ⟨_, parts, name, hsome, hdivided, hmissing, rfl⟩)
        · cases h
        · obtain rfl := Option.some.inj hsome
          obtain rfl := divided_iff.1 hdivided
          exact ⟨name, hmissing, rfl⟩

end Building

/-- **Building succeeds** exactly if the endpoint exists, every name in braces is that of a
parameter, and none occurs twice.  Every place is then filled with the encoding of its parameter,
and the query, before the key, consists of the remaining parameters that are not null.  If building
fails, then for a missing endpoint or for the first name that has no value or occurs for the second
time. -/
theorem build_succeeds_iff (provider : String) (manifest : Manifest) (spec : CallSpec)
    (timeoutMs : Nat) :
    ((∃ r, build provider manifest spec timeoutMs = .ok r) ↔
        ∃ path parts, manifest.endpoints.get? spec.endpoint = some path ∧
          Divided path.toList parts ∧ (∀ name ∈ paramNames parts, name ∈ spec.params.keys) ∧
          (paramNames parts).Nodup) ∧
      (∀ r, build provider manifest spec timeoutMs = .ok r ↔
        ∃ path parts filled, manifest.endpoints.get? spec.endpoint = some path ∧
          Divided path.toList parts ∧ (paramNames parts).Nodup ∧
          Filled Encodes spec.params parts filled ∧
          r = assembled provider manifest spec timeoutMs (paramNames parts) filled) ∧
      ∀ f, build provider manifest spec timeoutMs = .error f ↔
        (manifest.endpoints.get? spec.endpoint = none ∧ f = .noEndpoint provider spec.endpoint) ∨
          ∃ path parts name, manifest.endpoints.get? spec.endpoint = some path ∧
            Divided path.toList parts ∧ FirstMissing spec.params parts name ∧
            f = .missingParameter name := by
  refine ⟨?_, fun r => build_eq_ok_iff, fun f => build_eq_error_iff⟩
  constructor
  · rintro ⟨r, hbuilt⟩
    obtain ⟨path, parts, filled, hpath, hdivided, hnodup, hfilled, -⟩ := build_eq_ok_iff.1 hbuilt
    exact ⟨path, parts, hpath, hdivided, hfilled.mem_keys, hnodup⟩
  · rintro ⟨path, parts, hpath, hdivided, hkeys, hnodup⟩
    obtain ⟨filled, hfilled⟩ := exists_filled hkeys
    exact ⟨_, build_eq_ok_iff.2 ⟨path, parts, filled, hpath, hdivided, hnodup, hfilled, rfl⟩⟩

/-- A service with one endpoint. -/
def serviceAt (path : String) (auth : Option Auth) : Manifest :=
  ⟨"https://a.test", [("find", path)], auth, none, .zero, 0.5, [], none⟩

/-- The path `/pair/{id}/{id}` names a parameter that has a value, and yet no request is built: at
its second place the parameter is reported as missing. -/
theorem repeated_parameter_missing :
    (serviceAt "/pair/\x7bid\x7d/\x7bid\x7d" none).endpoints.get? "find"
        = some "/pair/\x7bid\x7d/\x7bid\x7d" ∧
      Divided "/pair/\x7bid\x7d/\x7bid\x7d".toList
        [.plain "/pair/".toList, .param "id", .plain "/".toList, .param "id", .plain []] ∧
      "id" ∈ Dict.keys [("id", Value.text "x")] ∧
      build "alpha" (serviceAt "/pair/\x7bid\x7d/\x7bid\x7d" none)
          ⟨"find", [("id", .text "x")], .get, none⟩ 5 = .error (.missingParameter "id") := by
  have hparts : [.plain "/pair/".toList, .param "id", .plain "/".toList, .param "id", .plain []]
      = pathParts "/pair/\x7bid\x7d/\x7bid\x7d".toList := by decide +kernel
  refine ⟨rfl, divided_iff.2 hparts, List.mem_singleton_self _, ?_⟩
  rw [build_of_endpoint rfl, ← hparts]
  rfl

/-! ## Keys in the query -/

/-- No parameter of a call shows under a name exactly if each that has it is null or used up by the
path. -/
theorem filter_ownQuery_eq_nil_iff {params : Dict Value} {names : List String} {name : String} :
    (ownQuery params names).filter (fun p => p.1 = name) = [] ↔
      ∀ v, (name, v) ∈ params → v = .null ∨ name ∈ names := by
  simp only [List.filter_eq_nil_iff, decide_eq_true_eq]
  constructor
  · intro h v hv
    by_cases hname : name ∈ names
    · exact .inr hname
    · cases hnull : v.isNull with
      | true => exact .inl (Value.isNull_eq_true_iff.1 hnull)
      | false =>
          have hkept : (name, v) ∈ params.filter fun e => e.1 ∉ names ∧ e.2.isNull = false :=
            List.mem_filter.2 ⟨hv, decide_eq_true ⟨hname, hnull⟩⟩
          exact absurd rfl (h (name, v.shown) (List.mem_map.2 ⟨(name, v), hkept, rfl⟩))
  · rintro h p hp rfl
    obtain ⟨⟨k, v⟩, hkept, rfl⟩ := List.mem_map.1 hp
    obtain ⟨hmem, hshown⟩ := List.mem_filter.1 hkept
    obtain ⟨hname, hnull⟩ := of_decide_eq_true hshown
    rcases h v hmem with rfl | hused
    · cases hnull
    · exact hname hused

/-- **A key among parameters.**  A key that is sent as a query parameter stands at the end of the
query.  It is the only parameter of its name exactly if every parameter of the call that has the
name is null or used up by the path. -/
theorem credential_alone_iff {provider : String} {manifest : Manifest} {spec : CallSpec}
    {timeoutMs : Nat} {r : Request} {key name path : String} {header : Option String}
    {parts : List PathPart} (hauth : manifest.auth = some (.apiKey key header (some name)))
    (hpath : manifest.endpoints.get? spec.endpoint = some path)
    (hdivided : Divided path.toList parts)
    (hbuilt : build provider manifest spec timeoutMs = .ok r) :
    (∃ own, r.query = own ++ [(name, key)]) ∧
      (r.query.filter (fun p => p.1 = name) = [(name, key)] ↔
        ∀ v, (name, v) ∈ spec.params → v = .null ∨ name ∈ paramNames parts) := by
  obtain ⟨path', parts', filled, hpath', hdivided', -, -, rfl⟩ := build_eq_ok_iff.1 hbuilt
  obtain rfl : path = path' := Option.some.inj (hpath.symm.trans hpath')
  obtain rfl : parts = parts' := (divided_iff.1 hdivided).trans (divided_iff.1 hdivided').symm
  have hquery : (assembled provider manifest spec timeoutMs (paramNames parts) filled).query
      = ownQuery spec.params (paramNames parts) ++ [(name, key)] := by
    rw [assembled, hauth, authQuery]
  rw [hquery, ← filter_ownQuery_eq_nil_iff, List.filter_append]
  exact ⟨⟨_, rfl⟩, by simp⟩

/-- A parameter that has the name of the key, but is used up by the path. -/
theorem credential_alone_iff_inPath : ∃ r,
    build "alpha" (serviceAt "/of/\x7bapikey\x7d" (some (.apiKey "secret" none (some "apikey"))))
        ⟨"find", [("apikey", .text "x"), ("q", .text "btc")], .get, none⟩ 5 = .ok r ∧
      r.query.filter (fun p => p.1 = "apikey") = [("apikey", "secret")] := by
  have hparts : [.plain "/of/".toList, .param "apikey", .plain []]
      = pathParts "/of/\x7bapikey\x7d".toList := by decide +kernel
  obtain ⟨r, hbuilt⟩ : ∃ r,
      build "alpha" (serviceAt "/of/\x7bapikey\x7d" (some (.apiKey "secret" none (some "apikey"))))
        ⟨"find", [("apikey", .text "x"), ("q", .text "btc")], .get, none⟩ 5 = .ok r := by
    rw [build_of_endpoint rfl, ← hparts]
    exact ⟨_, rfl⟩
  refine ⟨r, hbuilt, (credential_alone_iff rfl rfl (divided_iff.2 hparts) hbuilt).2.2 ?_⟩
  exact fun v _ => .inr (List.mem_singleton_self _)

/-- A parameter `apikey` of the call stands before the key of that name. -/
theorem parameter_precedes_key : ∃ r,
    build "alpha" (serviceAt "search" (some (.apiKey "secret" none (some "apikey"))))
        ⟨"find", [("apikey", .text "mine")], .get, none⟩ 5 = .ok r ∧
      r.query = [("apikey", "mine"), ("apikey", "secret")] := by
  have hparts : [.plain "search".toList] = pathParts "search".toList := by decide +kernel
  rw [build_of_endpoint rfl, ← hparts]
  exact ⟨_, rfl, rfl⟩

end Request

end Planwright
