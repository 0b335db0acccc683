import Mathlib
import FeatureFlags.Client.Basic
import FeatureFlags.Proofs.Service.Call

/-!
# Fetching flags and publishing them

`FlagClient.getFeatureFlags` fetches the flags of a query and publishes them to the
watchers. A fetch that gives flags publishes exactly them; one that fails leaves what the
watchers see as it was. The anonymous query never fails: when the service cannot give the
flags, the default flags stand in for them. Traits need an identity: without one the query
fails before anything is sent. With one, the traits go to the service in one request, a
`POST` of `identities/`, past the cache, which is neither read nor written. When that path
does not read against the API URL, as against an API URL that cannot be a base such as
`mailto:x/`, the query fails as an invalid argument, and nothing is sent.

What a call sends is stated through the transport: `AsksOnly f outs` says that the outcome
`f` gives for a transport depends only on the transport's answers to the requests `outs`.
Two transports that answer those alike give the same outcome, so with `outs = []` nothing is
sent at all.

* `ServiceClient.execute_result_of_not_cacheable`: a request that is not cacheable is sent
  once, past the cache, and its answer is the call's result;
* `FlagClient.getFeatureFlags_publishes`: the whole contract of a fetch, for every client,
  transport, clock and query;
* `FlagClient.traits_unsent_at_opaque_api_url`: at the API URL read from `mailto:x`, a query
  with an identity and traits fails, and sends nothing.
-/

namespace FeatureFlags

/-! ### What a computation asks the transport -/

/-- A computation over the transport asks it only the requests `outs`: two transports that
    answer them alike give the same outcome. -/
def AsksOnly {β : Type} (f : Transport → β) (outs : List OutgoingRequest) : Prop :=
  ∀ t t', (∀ out ∈ outs, t out = t' out) → f t = f t'

namespace AsksOnly

variable {β γ : Type} {f : Transport → β} {outs : List OutgoingRequest}

/-- What is computed from the outcome asks no more. -/
theorem map (h : AsksOnly f outs) (g : β → γ) : AsksOnly (fun t => g (f t)) outs :=
  fun t t' hts => congrArg g (h t t' hts)

end AsksOnly

namespace Exchange

variable {α β : Type} (f : α → Except ClientError β) (e : Exchange α)

@[simp] theorem andThen_result : (e.andThen f).result = e.result.bind f := rfl

@[simp] theorem andThen_client : (e.andThen f).client = e.client := rfl

end Exchange

/-! ### A request sent past the cache -/

namespace ServiceClient

variable (c : ServiceClient) {transport : Transport} {now : Instant} {r : ApiRequest}
  {options : RequestOptions}

/-- The request of a call past the cache goes out without a directive or validators, and
    the call's result is the answer to it. -/
theorem sendDirect_result (url : Url) :
    (c.sendDirect transport r url).result =
      ((transport (c.outgoing r url none [])).mapError TransportError.toClientError >>=
        Reply.accept) := by
  unfold sendDirect
  dsimp only
  split <;> simp_all

/-- A call past the cache asks the transport the one request it sends. -/
theorem asksOnly_sendDirect (r : ApiRequest) (url : Url) :
    AsksOnly (fun t => c.sendDirect t r url) [c.outgoing r url none []] := by
  intro t t' hts
  simp only [sendDirect, hts _ (List.mem_singleton_self _)]

/-- A call past the cache leaves the store as it was. -/
theorem sendDirect_store (url : Url) : (c.sendDirect transport r url).client.store = c.store := by
  unfold sendDirect
  dsimp only
  split <;> simp

@[simp] theorem outgoing_with_store (s : Option ResponseStore) :
    { c with store := s }.outgoing = c.outgoing := rfl

@[simp] theorem urlFor_with_store (s : Option ResponseStore) :
    { c with store := s }.urlFor = c.urlFor :=
  (sameService_with_store c s).urlFor_eq

/-- A path that does not read against the API URL fails the call, and nothing is sent. -/
theorem execute_of_urlFor_error {err : ClientError} (hurl : c.urlFor r = .error err) :
    c.execute transport now r options = { result := .error err, sent := none, client := c } := by
  simp [execute, hurl]

/-- The URL of a request fails only as an invalid argument. -/
theorem urlFor_error {err : ClientError} (hurl : c.urlFor r = .error err) :
    ∃ msg, err = .invalidArgument msg := by
  unfold urlFor at hurl
  split at hurl
  · cases hurl
  · cases hurl
    exact ⟨_, rfl⟩

section NotCacheable

variable (hr : r.isCacheable = false)
include hr

/-- A request that is not cacheable is sent once, past the cache, and its answer is the
    call's result, whatever the store holds. -/
theorem execute_result_of_not_cacheable {url : Url} (hurl : c.urlFor r = .ok url) :
    (c.execute transport now r options).result =
      ((transport (c.outgoing r url none [])).mapError TransportError.toClientError >>=
        Reply.accept) := by
  rw [execute_eq_sendDirect c hurl (.inr hr), sendDirect_result]

theorem asksOnly_execute_of_not_cacheable {url : Url} (hurl : c.urlFor r = .ok url) :
    AsksOnly (fun t => c.execute t now r options) [c.outgoing r url none []] := by
  have heq : (fun t => c.execute t now r options) = fun t => c.sendDirect t r url :=
    funext fun t => execute_eq_sendDirect c hurl (.inr hr)
  rw [heq]
  exact c.asksOnly_sendDirect r url

/-- A request that is not cacheable leaves the store as it was. -/
theorem execute_store_of_not_cacheable :
    (c.execute transport now r options).client.store = c.store := by
  rcases hurl : c.urlFor r with err | url
  · rw [execute_of_urlFor_error c hurl]
  · rw [execute_eq_sendDirect c hurl (.inr hr), sendDirect_store]

/-- A request that is not cacheable does not read the store: its result is the same for
    every store. -/
theorem execute_result_with_store_of_not_cacheable (s : Option ResponseStore) :
    ({ c with store := s }.execute transport now r options).result =
      (c.execute transport now r options).result := by
  rcases hurl : c.urlFor r with err | url
  · have hurl' : { c with store := s }.urlFor r = .error err := by rw [urlFor_with_store, hurl]
    rw [execute_of_urlFor_error c hurl, execute_of_urlFor_error _ hurl']
  · have hurl' : { c with store := s }.urlFor r = .ok url := by rw [urlFor_with_store, hurl]
    rw [execute_result_of_not_cacheable c hr hurl, execute_result_of_not_cacheable _ hr hurl',
      outgoing_with_store]

end NotCacheable

/-- A `POST` is never cached. -/
theorem isCacheable_post (path : String) (body : Json) :
    (ApiRequest.post path body).isCacheable = false := rfl

/-! ### Setting traits -/

section PostTraits

variable (body : IdentityRequest)

/-- Traits whose path does not read against the API URL are not sent. -/
theorem postTraits_of_urlFor_error {err : ClientError}
    (hurl : c.urlFor (.post identitiesPath body.toJson) = .error err) :
    c.postTraits transport now body = { result := .error err, sent := none, client := c } := by
  unfold postTraits
  rw [execute_of_urlFor_error c hurl]
  rfl

/-- Setting traits asks the transport the one `POST` it sends. -/
theorem asksOnly_postTraits {url : Url} (hurl : c.urlFor (.post identitiesPath body.toJson) = .ok url) :
    AsksOnly (fun t => c.postTraits t now body)
      [c.outgoing (.post identitiesPath body.toJson) url none []] := by
  unfold postTraits
  exact (c.asksOnly_execute_of_not_cacheable (isCacheable_post _ _) hurl).map _

/-- When the `POST` finds no connection, setting traits fails as that connection did. -/
theorem postTraits_of_unreachable {url : Url} {causes : List String}
    (hurl : c.urlFor (.post identitiesPath body.toJson) = .ok url)
    (hsent : transport (c.outgoing (.post identitiesPath body.toJson) url none []) =
      .error (.unreachable causes)) :
    (c.postTraits transport now body).result = .error (.network causes) := by
  unfold postTraits
  rw [Exchange.andThen_result, execute_result_of_not_cacheable c (isCacheable_post _ _) hurl, hsent]
  rfl

theorem postTraits_store : (c.postTraits transport now body).client.store = c.store := by
  unfold postTraits
  rw [Exchange.andThen_client, execute_store_of_not_cacheable c (isCacheable_post _ _)]

theorem postTraits_result_with_store (s : Option ResponseStore) :
    ({ c with store := s }.postTraits transport now body).result =
      (c.postTraits transport now body).result := by
  unfold postTraits
  rw [Exchange.andThen_result, Exchange.andThen_result,
    execute_result_with_store_of_not_cacheable c (isCacheable_post _ _)]

end PostTraits

end ServiceClient

/-! ### The end of a fetch -/

namespace FlagClient

variable (c : FlagClient) {transport : Transport} {now : Instant} {q : FlagQuery}

/-- The end of a fetch through the service call `e`: the flags it gives, published, or its
    error; the service is the one after the call either way. -/
def settle {α : Type} (e : Exchange α) (flags : α → List Flag) :
    Except ClientError (List Flag) × FlagClient :=
  match e.result with
  | .ok v => (.ok (flags v), (c.withService e).publish (flags v))
  | .error err => (.error err, c.withService e)

section Settle

variable {α : Type} (e : Exchange α) (flags : α → List Flag)

theorem settle_fst : (c.settle e flags).1 = e.result.map flags := by
  unfold settle
  split <;> simp_all [Except.map]

@[simp] theorem settle_service : (c.settle e flags).2.service = e.client := by
  unfold settle
  split <;> rfl

/-- A fetch that gives flags publishes them; one that fails leaves what the watchers see. -/
theorem settle_watch :
    (∀ fl, (c.settle e flags).1 = .ok fl → (c.settle e flags).2.watch = { current := fl, unseen := true }) ∧
      ∀ err, (c.settle e flags).1 = .error err → (c.settle e flags).2.watch = c.watch := by
  unfold settle
  split
  · exact ⟨fun fl h => by cases h; rfl, fun _ h => (nomatch h)⟩
  · exact ⟨fun _ h => (nomatch h), fun _ _ => rfl⟩

end Settle

@[simp] theorem remember_watch (identity : Option String) : (c.remember identity).watch = c.watch :=
  rfl

@[simp] theorem remember_service (identity : Option String) :
    (c.remember identity).service = c.service := rfl

@[simp] theorem remember_options (identity : Option String) :
    (c.remember identity).options = c.options := rfl

@[simp] theorem remember_defaultFlags (identity : Option String) :
    (c.remember identity).defaultFlags = c.defaultFlags := rfl

/-- A query with an identity and traits sets the traits, and ends as that call does. -/
theorem getFeatureFlags_of_identity_traits {identifier : String} {traits : List Trait}
    (hid : q.identity = some identifier) (htr : q.traits = some traits) :
    c.getFeatureFlags transport now q =
      (c.remember q.identity).settle
        (c.service.postTraits transport now { identifier, traits, transient := some q.transient })
        IdentityState.flags := by
  unfold getFeatureFlags settle
  simp only [hid, htr]
  split <;> simp_all

/-- A query with an identity and no traits reads the identity's flags, and ends as that call
    does. -/
theorem getFeatureFlags_of_identity {identifier : String} (hid : q.identity = some identifier)
    (htr : q.traits = none) :
    c.getFeatureFlags transport now q =
      (c.remember q.identity).settle
        (c.service.getIdentity transport now identifier q.transient (c.options q.forceRefresh))
        IdentityState.flags := by
  unfold getFeatureFlags settle
  simp only [hid, htr]
  split <;> simp_all

/-- Traits without an identity fail the query at once. -/
theorem getFeatureFlags_of_traits_without_identity (hid : q.identity = none)
    (htr : q.traits ≠ none) :
    c.getFeatureFlags transport now q =
      (.error (.invalidArgument "traits require an identity"), c.remember none) := by
  obtain ⟨traits, htr⟩ := Option.ne_none_iff_exists'.1 htr
  unfold getFeatureFlags
  simp only [hid, htr]

/-- The anonymous query gives flags, and publishes them: the flags fetched, or the default
    flags when the fetch fails. -/
theorem getFeatureFlags_anonymous (hid : q.identity = none) (htr : q.traits = none) :
    ∃ flags, (c.getFeatureFlags transport now q).1 = .ok flags ∧
      (c.getFeatureFlags transport now q).2.watch = { current := flags, unseen := true } ∧
      ((c.service.getFlags transport now (c.options q.forceRefresh)).result = .ok flags ∨
        (∃ err, (c.service.getFlags transport now (c.options q.forceRefresh)).result = .error err) ∧
          flags = c.defaultFlags) := by
  unfold getFeatureFlags
  simp only [hid, htr]
  split
  · rename_i flags hfetch
    exact ⟨flags, rfl, rfl, .inl (by simpa using hfetch)⟩
  · rename_i err hfetch
    exact ⟨c.defaultFlags, rfl, rfl, .inr ⟨⟨err, by simpa using hfetch⟩, rfl⟩⟩

/-- Whatever the query, flags it gives are published, and a failure leaves what the
    watchers see as it was. -/
theorem getFeatureFlags_watch :
    (∀ flags, (c.getFeatureFlags transport now q).1 = .ok flags →
        (c.getFeatureFlags transport now q).2.watch = { current := flags, unseen := true }) ∧
      ∀ err, (c.getFeatureFlags transport now q).1 = .error err →
        (c.getFeatureFlags transport now q).2.watch = c.watch := by
  -- The four kinds of query; the two with an identity end as their service call does.
  rcases hid : q.identity with _ | identifier <;> rcases htr : q.traits with _ | traits
  · obtain ⟨flags, hok, hwatch, -⟩ := c.getFeatureFlags_anonymous hid htr
    rw [hok, hwatch]
    exact ⟨fun _ h => by cases h; rfl, fun _ h => (nomatch h)⟩
  · rw [c.getFeatureFlags_of_traits_without_identity hid (by simp [htr])]
    exact ⟨fun _ h => (nomatch h), fun _ _ => rfl⟩
  · rw [c.getFeatureFlags_of_identity hid htr]
    simpa using (c.remember q.identity).settle_watch _ _
  · rw [c.getFeatureFlags_of_identity_traits hid htr]
    simpa using (c.remember q.identity).settle_watch _ _

section Traits

variable {identifier : String} {traits : List Trait} (hid : q.identity = some identifier)
  (htr : q.traits = some traits)
include hid htr

/-- A query with an identity and traits sends one `POST` of them to `identities/`, whose
    failure to connect is the query's failure; or, when that path does not read against the
    API URL, it fails as an invalid argument and sends nothing. -/
theorem getFeatureFlags_posts_traits :
    let post := ApiRequest.post identitiesPath
      ({ identifier, traits, transient := some q.transient } : IdentityRequest).toJson
    (∃ url out, c.service.urlFor post = .ok url ∧ out.method = "POST" ∧ out.url = url ∧
        out.body = post.body ∧ AsksOnly (fun t => c.getFeatureFlags t now q) [out] ∧
        ∀ causes, transport out = .error (.unreachable causes) →
          (c.getFeatureFlags transport now q).1 = .error (.network causes)) ∨
      ∃ msg, c.service.urlFor post = .error (.invalidArgument msg) ∧
        (c.getFeatureFlags transport now q).1 = .error (.invalidArgument msg) ∧
        AsksOnly (fun t => c.getFeatureFlags t now q) [] := by
  intro post
  -- Every transport gives the end of the same call that sets the traits.
  have hfetch : (fun t => c.getFeatureFlags t now q) = fun t =>
      (c.remember q.identity).settle
        (c.service.postTraits t now { identifier, traits, transient := some q.transient })
        IdentityState.flags :=
    funext fun t => c.getFeatureFlags_of_identity_traits hid htr
  rcases hurl : c.service.urlFor post with err | url
  · obtain ⟨msg, rfl⟩ := c.service.urlFor_error hurl
    have hpost := fun t => @ServiceClient.postTraits_of_urlFor_error c.service t now _ _ hurl
    refine .inr ⟨msg, rfl, ?_, ?_⟩
    · rw [c.getFeatureFlags_of_identity_traits hid htr, settle_fst, hpost]
      rfl
    · rw [hfetch]
      intro t t' _
      dsimp only
      rw [hpost, hpost]
  · refine .inl ⟨url, c.service.outgoing post url none [], rfl, rfl, rfl, rfl, ?_, ?_⟩
    · rw [hfetch]
      exact (c.service.asksOnly_postTraits _ hurl).map
        fun e => (c.remember q.identity).settle e IdentityState.flags
    · intro causes hsent
      rw [c.getFeatureFlags_of_identity_traits hid htr, settle_fst,
        c.service.postTraits_of_unreachable _ hurl hsent]
      rfl

/-- A query with an identity and traits neither writes the cache nor reads it: the store is
    as it was, and the result is the same for every store. -/
theorem getFeatureFlags_traits_past_cache :
    (c.getFeatureFlags transport now q).2.service.store = c.service.store ∧
      ∀ store, ({ c with service := { c.service with store } }.getFeatureFlags transport now q).1 =
        (c.getFeatureFlags transport now q).1 := by
  refine ⟨?_, fun store => ?_⟩
  · rw [c.getFeatureFlags_of_identity_traits hid htr, settle_service, ServiceClient.postTraits_store]
  · rw [getFeatureFlags_of_identity_traits _ hid htr, getFeatureFlags_of_identity_traits _ hid htr,
      settle_fst, settle_fst]
    exact congrArg (Except.map _) (c.service.postTraits_result_with_store _ store)

end Traits

/-! ### The contract of a fetch -/

/-- Flags a fetch gives are published, and a failure publishes nothing. The anonymous query
    gives the flags fetched, or the default flags when the fetch fails. Traits without an
    identity fail the query before anything is sent. Traits with an identity are sent in one
    `POST` of `identities/`, past the cache, which is neither read nor written; when that path
    does not read against the API URL, the query fails as an invalid argument and sends
    nothing. -/
theorem getFeatureFlags_publishes (c : FlagClient) (transport : Transport) (now : Instant)
    (q : FlagQuery) :
    (∀ flags, (c.getFeatureFlags transport now q).1 = .ok flags →
        (c.getFeatureFlags transport now q).2.watch = { current := flags, unseen := true }) ∧
      (∀ err, (c.getFeatureFlags transport now q).1 = .error err →
        (c.getFeatureFlags transport now q).2.watch = c.watch) ∧
      (q.identity = none → q.traits = none →
        ∃ flags, (c.getFeatureFlags transport now q).1 = .ok flags ∧
          ((c.service.getFlags transport now (c.options q.forceRefresh)).result = .ok flags ∨
            (∃ err, (c.service.getFlags transport now (c.options q.forceRefresh)).result =
              .error err) ∧ flags = c.defaultFlags)) ∧
      (q.identity = none → q.traits ≠ none →
        (c.getFeatureFlags transport now q).1 =
            .error (.invalidArgument "traits require an identity") ∧
          AsksOnly (fun t => c.getFeatureFlags t now q) []) ∧
      ∀ identifier traits, q.identity = some identifier → q.traits = some traits →
        let post := ApiRequest.post identitiesPath
          ({ identifier, traits, transient := some q.transient } : IdentityRequest).toJson
        ((∃ url out, c.service.urlFor post = .ok url ∧ out.method = "POST" ∧ out.url = url ∧
            out.body = post.body ∧ AsksOnly (fun t => c.getFeatureFlags t now q) [out] ∧
            ∀ causes, transport out = .error (.unreachable causes) →
              (c.getFeatureFlags transport now q).1 = .error (.network causes)) ∨
          ∃ msg, c.service.urlFor post = .error (.invalidArgument msg) ∧
            (c.getFeatureFlags transport now q).1 = .error (.invalidArgument msg) ∧
            AsksOnly (fun t => c.getFeatureFlags t now q) []) ∧
        (c.getFeatureFlags transport now q).2.service.store = c.service.store ∧
        ∀ store, ({ c with service := { c.service with store } }.getFeatureFlags transport now q).1 =
          (c.getFeatureFlags transport now q).1 := by
  refine ⟨c.getFeatureFlags_watch.1, c.getFeatureFlags_watch.2, fun hid htr => ?_, fun hid htr => ⟨?_, ?_⟩,
    fun _ _ hid htr => ⟨c.getFeatureFlags_posts_traits hid htr,
      c.getFeatureFlags_traits_past_cache hid htr⟩⟩
  · obtain ⟨flags, hflags, -, hfetched⟩ := c.getFeatureFlags_anonymous hid htr
    exact ⟨flags, hflags, hfetched⟩
  · rw [c.getFeatureFlags_of_traits_without_identity hid htr]
  · -- The query fails the same way for every transport.
    intro t t' _
    dsimp only
    rw [c.getFeatureFlags_of_traits_without_identity hid htr,
      c.getFeatureFlags_of_traits_without_identity hid htr]

/-- The API URL read from `mailto:x`: its path is opaque, so it cannot be a base. -/
def opaqueApiUrl : Url := { scheme := "mailto", path := .plain "x/" }

/-- Settings whose base URL is `mailto:x` are read to an API URL against which `identities/`
    does not read. A query with an identity and traits then fails as an invalid argument and
    sends nothing, whatever the client, the transport and the clock. -/
theorem traits_unsent_at_opaque_api_url :
    ({ baseUrl := "mailto:x" } : ClientSettings).apiUrl = .ok opaqueApiUrl ∧
      ∀ (c : FlagClient) (transport : Transport) (now : Instant) (identifier : String)
        (traits : List Trait) (transient forceRefresh : Bool),
        let c' : FlagClient := { c with service := { c.service with baseUrl := opaqueApiUrl } }
        let q : FlagQuery :=
          { identity := some identifier, traits := some traits, transient, forceRefresh }
        (c'.getFeatureFlags transport now q).1 =
            .error (.invalidArgument "identities/: relative URL with a cannot-be-a-base base") ∧
          AsksOnly (fun t => c'.getFeatureFlags t now q) [] := by
  refine ⟨?_, fun c transport now identifier traits transient forceRefresh => ?_⟩
  · have hurl : (ClientSettings.apiUrl { baseUrl := "mailto:x" }).toOption = some opaqueApiUrl := by
      decide +kernel
    revert hurl
    cases ClientSettings.apiUrl { baseUrl := "mailto:x" } <;> simp [Except.toOption]
  intro c' q
  -- A relative path cannot be read against an opaque path.
  have hjoin : opaqueApiUrl.join "identities/" = .error .relativeUrlWithCannotBeABaseBase := by
    decide +kernel
  have hpath : String.ofList (identitiesPath.toList.dropWhile (· = '/')) = "identities/" := by
    decide +kernel
  have hurl : ∀ body, c'.service.urlFor (.post identitiesPath body) =
      .error (.invalidArgument "identities/: relative URL with a cannot-be-a-base base") := by
    intro body
    simp only [c', ServiceClient.urlFor, ApiRequest.post, hpath, hjoin]
    rfl
  rcases @getFeatureFlags_posts_traits c' transport now q identifier traits rfl rfl with
    ⟨url, -, hok, -⟩ | ⟨msg, herr, hresult, hasks⟩
  · rw [hurl] at hok
    cases hok
  · rw [hurl] at herr
    cases herr
    exact ⟨hresult, hasks⟩

end FlagClient

end FeatureFlags
