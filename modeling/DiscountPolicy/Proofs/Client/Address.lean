import DiscountPolicy.Proofs.Client
import DiscountPolicy.Proofs.Config.Scheme
import DiscountPolicy.Proofs.Url

/-! The addresses of a client. The base is the configured address without its final slashes, and a
path follows it after one slash. The address is checked before the slashes are dropped, so a base
can be left that names no server, and then the paths name the servers that requests go to. -/

namespace DiscountPolicy.Client

variable {c : Client} {stores started : TokenStores} {config : Config} {url : String}

/-! ### Slashes -/

theorem toList_withoutFinalSlashes (url : String) :
    (withoutFinalSlashes url).toList = url.toList.rdropWhile (· == '/') := by
  rw [withoutFinalSlashes, String.toList_ofList]
  rfl

theorem exists_replicate_slash {cs : List Char} (h : ∀ ch ∈ cs, (ch == '/') = true) :
    ∃ k, cs = List.replicate k '/' :=
  ⟨cs.length, List.eq_replicate_of_mem fun ch hch => beq_iff_eq.mp (h ch hch)⟩

theorem exists_withoutFinalSlashes_append (url : String) :
    ∃ k, url.toList = (withoutFinalSlashes url).toList ++ List.replicate k '/' := by
  obtain ⟨k, hk⟩ : ∃ k, url.toList.rtakeWhile (· == '/') = List.replicate k '/' :=
    exists_replicate_slash fun _ h => List.mem_rtakeWhile_imp (p := (· == '/')) h
  exact ⟨k, by rw [toList_withoutFinalSlashes, ← hk, List.rdropWhile_append_rtakeWhile]⟩

theorem getLast?_withoutFinalSlashes (url : String) :
    (withoutFinalSlashes url).toList.getLast? ≠ some '/' := by
  intro h
  rw [toList_withoutFinalSlashes] at h
  have hlast := List.getLast_of_getLast?_eq_some h
  exact List.rdropWhile_last_not (· == '/') _ _ (beq_iff_eq.mpr hlast)

theorem toList_url (c : Client) (path : String) :
    (c.url path).toList = c.baseUrl.toList ++ '/' :: path.toList.dropWhile (· == '/') := by
  simp [Client.url]

theorem exists_slashes_append (path : String) :
    ∃ k, path.toList = List.replicate k '/' ++ path.toList.dropWhile (· == '/') := by
  obtain ⟨k, hk⟩ : ∃ k, path.toList.takeWhile (· == '/') = List.replicate k '/' :=
    exists_replicate_slash fun _ h => List.mem_takeWhile_imp (p := (· == '/')) h
  exact ⟨k, by rw [← hk, List.takeWhile_append_dropWhile]⟩

/-! ### Schemes -/

theorem isHttp_iff_slashes {scheme : Scheme} {after : List Char}
    (h : url.toList = scheme.name.toList ++ ':' :: after) :
    Config.isHttp url = true ↔ ['/', '/'] <+: after := by
  rw [Config.isHttp_iff, Config.HasScheme, h]
  cases scheme <;> simp [Scheme.name, List.cons_prefix_cons]

theorem exists_scheme_of_isHttp (h : Config.isHttp url = true) :
    ∃ (scheme : Scheme) (after : List Char), url.toList = scheme.name.toList ++ ':' :: after := by
  rcases Config.isHttp_iff.mp h with ⟨after, h⟩ | ⟨after, h⟩
  · exact ⟨.http, '/' :: '/' :: after, h.symm⟩
  · exact ⟨.https, '/' :: '/' :: after, h.symm⟩

theorem rdropWhile_slashes (cs : List Char) :
    ('/' :: '/' :: cs).rdropWhile (· == '/') = [] ∨
      ['/', '/'] <+: ('/' :: '/' :: cs).rdropWhile (· == '/') := by
  by_cases hall : ∀ ch ∈ cs, (ch == '/') = true
  · left
    rw [List.rdropWhile_eq_nil_iff, List.forall_mem_cons, List.forall_mem_cons]
    exact ⟨rfl, rfl, hall⟩
  · right
    push Not at hall
    obtain ⟨ch, hmem, hch⟩ := hall
    obtain ⟨l, r, rfl⟩ := List.append_of_mem hmem
    rw [← List.cons_append, ← List.cons_append, rdropWhile_append_cons _ _ (by simpa using hch)]
    exact ⟨l ++ ch :: r.rdropWhile (· == '/'), rfl⟩

/-- The base of a client begins with a scheme and, unless all else was slashes, with two slashes
after it. -/
theorem toList_baseUrl (h : start stores config = .ok (c, started)) :
    ∃ (scheme : Scheme) (after : List Char), c.baseUrl.toList = scheme.name.toList ++ ':' :: after ∧
      (after = [] ∨ ['/', '/'] <+: after) := by
  obtain ⟨hvalid, rfl, -⟩ := start_eq_ok_iff.mp h
  have hhttp : Config.isHttp config.apiUrl = true :=
    Config.isHttp_iff.mpr (Config.validate_eq_ok_iff.mp hvalid)
  obtain ⟨scheme, after, hurl⟩ := exists_scheme_of_isHttp hhttp
  obtain ⟨cs, rfl⟩ := (isHttp_iff_slashes hurl).mp hhttp
  refine ⟨scheme, _, ?_, rdropWhile_slashes cs⟩
  rw [toList_withoutFinalSlashes, hurl, rdropWhile_append_cons _ _ (by decide)]
  rfl

/-! ### The addresses of paths -/

/-- The base is a scheme with its colon. -/
def OnlyScheme (base : String) : Prop := ∃ scheme : Scheme, base = scheme.name ++ ":"

/-- The base names a server after its scheme. -/
def NamesServer (base : String) : Prop := Url.Names (Url.afterColon base.toList)

section Base

variable {scheme : Scheme} {after : List Char}
  (hbase : c.baseUrl.toList = scheme.name.toList ++ ':' :: after)

include hbase

theorem namesServer_iff : NamesServer c.baseUrl ↔ Url.Names after := by
  rw [NamesServer, hbase, Url.afterColon_scheme]

theorem onlyScheme_iff : OnlyScheme c.baseUrl ↔ after = [] := by
  constructor
  · rintro ⟨other, hother⟩
    have hcolon : c.baseUrl.toList = other.name.toList ++ ':' :: [] := by simp [hother]
    rw [← @Url.afterColon_scheme scheme after, ← hbase, hcolon, Url.afterColon_scheme]
  · rintro rfl
    exact ⟨scheme, String.toList_inj.mp (by simp [hbase])⟩

theorem toList_url_scheme (path : String) : (c.url path).toList =
    scheme.name.toList ++ ':' :: (after ++ '/' :: path.toList.dropWhile (· == '/')) := by
  rw [toList_url, hbase, List.append_assoc, List.cons_append]

theorem isHttp_url_iff (hafter : after = [] ∨ ['/', '/'] <+: after) (path : String) :
    Config.isHttp (c.url path) = true ↔ ¬OnlyScheme c.baseUrl := by
  rw [isHttp_iff_slashes (toList_url_scheme hbase path), onlyScheme_iff hbase]
  rcases hafter with rfl | hslashes
  · -- One slash was put there, and the path has lost its own.
    have hstops := stops_dropWhile (· == '/') path.toList
    rw [List.nil_append, List.cons_prefix_cons]
    simp only [true_and, not_true_eq_false, iff_false]
    rintro ⟨tail, htail⟩
    rw [← htail] at hstops
    exact nomatch hstops '/' rfl
  · refine iff_of_true (hslashes.trans (List.prefix_append _ _)) ?_
    rintro rfl
    simp at hslashes

theorem isHttp_baseUrl_iff (hafter : after = [] ∨ ['/', '/'] <+: after) :
    Config.isHttp c.baseUrl = true ↔ ¬OnlyScheme c.baseUrl := by
  rw [isHttp_iff_slashes hbase, onlyScheme_iff hbase]
  rcases hafter with rfl | hslashes
  · simp
  · refine iff_of_true hslashes ?_
    rintro rfl
    simp at hslashes

/-- If the base names a server, requests to all paths go there. -/
theorem map_destination_url (h : NamesServer c.baseUrl) (path path' : String) :
    (Url.ofText? (c.url path)).map Url.destination =
      (Url.ofText? (c.url path')).map Url.destination :=
  Url.map_destination_congr (toList_url_scheme hbase path) (toList_url_scheme hbase path')
    ((namesServer_iff hbase).mp h)

/-- If it names none, an address is the path after the scheme. -/
theorem ofText?_url (h : ¬NamesServer c.baseUrl) (path : String) :
    Url.ofText? (c.url path) = Url.ofText? (scheme.name ++ "://" ++ path) := by
  obtain ⟨k, hk⟩ := exists_slashes_append path
  have hslashes : List.replicate (k + 1) '/' ++ '/' :: path.toList.dropWhile (· == '/') =
      '/' :: '/' :: path.toList := by
    rw [List.append_cons, ← List.replicate_succ', List.replicate_succ, List.replicate_succ,
      List.cons_append, List.cons_append, ← hk]
  have hpath : (scheme.name ++ "://" ++ path).toList = scheme.name.toList ++ ':' ::
      (List.replicate (k + 1) '/' ++ '/' :: path.toList.dropWhile (· == '/')) := by
    rw [hslashes]
    simp
  apply Url.ofText?_eq_of_not_names (toList_url_scheme hbase path) hpath
  · exact mt (namesServer_iff hbase).mpr h
  · rintro ⟨ch, hmem, hch⟩
    rw [List.eq_of_mem_replicate (List.mem_of_mem_filter hmem)] at hch
    cases hch

end Base

theorem ofText?_of_request {method : Method} {path : String} {data : Option Json} {r : Request}
    (h : c.request stores method path data = .ok r) : Url.ofText? (c.url path) = some r.url := by
  obtain ⟨url, bearer, hurl, -, rfl⟩ := request_eq_ok_iff.mp h
  exact (Option.filter_eq_some_iff.mp hurl).1

/-- The base of a client is the configured address without its final slashes, and the address of a
path is the base, one slash, and the path without the slashes at its start. Base and addresses start
with `http://` or `https://` unless nothing but slashes followed the scheme. If the base names a
server, all requests go there, whatever their paths; if it names none, the path of a request names
the server, as if it were an address without a scheme. -/
theorem addresses_of_start (h : start stores config = .ok (c, started)) :
    (∃ k, config.apiUrl.toList = c.baseUrl.toList ++ List.replicate k '/') ∧
    c.baseUrl.toList.getLast? ≠ some '/' ∧
    (∀ path : String, ∃ k rest, path.toList = List.replicate k '/' ++ rest ∧
      rest.head? ≠ some '/' ∧ (c.url path).toList = c.baseUrl.toList ++ '/' :: rest) ∧
    (Config.isHttp c.baseUrl = true ↔ ¬OnlyScheme c.baseUrl) ∧
    (∀ path, Config.isHttp (c.url path) = true ↔ ¬OnlyScheme c.baseUrl) ∧
    (NamesServer c.baseUrl → ∃ d, (∀ path, (Url.ofText? (c.url path)).map Url.destination = d) ∧
      ∀ stores method path data r, c.request stores method path data = .ok r →
        some r.url.destination = d) ∧
    (¬NamesServer c.baseUrl → ∃ scheme : Scheme, ∀ path,
      Url.ofText? (c.url path) = Url.ofText? (scheme.name ++ "://" ++ path)) := by
  obtain ⟨scheme, after, hbase, hafter⟩ := toList_baseUrl h
  obtain ⟨-, rfl, -⟩ := start_eq_ok_iff.mp h
  refine ⟨exists_withoutFinalSlashes_append _, getLast?_withoutFinalSlashes _, fun path => ?_,
    isHttp_baseUrl_iff hbase hafter, isHttp_url_iff hbase hafter, fun hserver => ?_,
    fun hnone => ⟨scheme, ofText?_url hbase hnone⟩⟩
  · obtain ⟨k, hk⟩ := exists_slashes_append path
    refine ⟨k, _, hk, fun hhead => ?_, toList_url _ path⟩
    exact nomatch stops_dropWhile (· == '/') path.toList '/' hhead
  · refine ⟨_, fun path => map_destination_url hbase hserver path "", ?_⟩
    intro stores method path data r hrequest
    rw [← map_destination_url hbase hserver path "", ofText?_of_request hrequest]
    rfl

theorem addresses_of_start_backend :
    let config : Config := { apiUrl := "https://backend:8000//", token := some "secret" }
    let c : Client := { baseUrl := "https://backend:8000", store := 0 }
    let stores := TokenStores.empty.create (some "secret")
    start .empty config = .ok (c, stores) ∧ NamesServer c.baseUrl ∧
      Config.isHttp (c.url "//evil/x") = true ∧
      ∃ r, c.request stores .get "//evil/x" none = .ok r ∧ r.url.destination =
        { scheme := .https, credentials := none, host := .domain ["backend".toList],
          port := some 8000 } := by
  intro config c stores
  have hstart : start .empty config = .ok (c, stores) := by decide +kernel
  have hserver : NamesServer c.baseUrl := ⟨'b', by decide, by decide⟩
  obtain ⟨-, -, -, -, hhttp, hserves, -⟩ := addresses_of_start hstart
  obtain ⟨d, hd, hrequests⟩ := hserves hserver
  have hok : (c.request stores .get "//evil/x" none).isOk = true := by decide +kernel
  obtain ⟨r, hrequest⟩ := exists_ok_of_isOk hok
  refine ⟨hstart, hserver, (hhttp _).mpr ?_, r, hrequest, Option.some.inj ?_⟩
  · rintro ⟨scheme, hscheme⟩
    revert hscheme
    cases scheme <;> decide
  · rw [hrequests _ _ _ _ _ hrequest, ← hd "/"]
    decide +kernel

/-- Of `http://` the check of addresses sees the slashes, and requests do not. -/
theorem addresses_of_start_without_server :
    let c : Client := { baseUrl := "http:", store := 0 }
    let stores := TokenStores.empty.create (some "secret")
    start .empty { apiUrl := "http://", token := some "secret" } = .ok (c, stores) ∧
      Config.isHttp c.baseUrl = false ∧ c.url "evil/x" = "http:/evil/x" ∧
      Config.isHttp (c.url "evil/x") = false ∧
      (c.get stores (fun _ => none) "evil/x").request.map (fun r => (r.host, r.authorization)) =
        some ("evil", ["Bearer secret"]) := by
  refine ⟨?_, ?_, ?_, ?_, ?_⟩ <;> decide +kernel

end DiscountPolicy.Client
