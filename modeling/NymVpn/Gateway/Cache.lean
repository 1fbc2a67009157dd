import NymVpn.Gateway.Directory

/-!
# The gateway cache

A lookup is answered from the cache while its list is fresh, answered and refreshed in the
background while it is stale, and fetched at once when it is too old. A list is kept with
the client it was fetched with and the input at which the fetch was started. Times are in
milliseconds. The lists of nodes for SOCKS5 are left out.
-/

namespace GatewayDirectory

structure GatewayMinPerformance where
  mixnetMinPerformance : Option ℕ
  vpnMinPerformance : Option ℕ
deriving DecidableEq

structure ApiUrl where
  url : String
  frontHosts : Option (List String)

structure GatewayConfig where
  nyxdUrl : String
  nymApiUrls : List ApiUrl
  nymVpnApiUrls : List ApiUrl
  minGatewayPerformance : Option GatewayMinPerformance

/-- Thresholds without values are spelled as no thresholds. -/
def withoutEmptyThresholds (minGatewayPerformance : Option GatewayMinPerformance) :
    Option GatewayMinPerformance :=
  minGatewayPerformance.filter fun min => min != ⟨none, none⟩

def GatewayConfig.new (nyxdUrl : String) (nymApiUrls nymVpnApiUrls : List ApiUrl)
    (minGatewayPerformance : Option GatewayMinPerformance) : Except String GatewayConfig :=
  if nymApiUrls.isEmpty then .error "NYM API URLs cannot be empty"
  else if nymVpnApiUrls.isEmpty then .error "NYM VPN API URLs cannot be empty"
  else .ok ⟨nyxdUrl, nymApiUrls, nymVpnApiUrls, withoutEmptyThresholds minGatewayPerformance⟩

structure FetchedList where
  list : GatewayList
  client : GatewayConfig
  started : ℕ

structure BackgroundRefresh where
  id : ℕ
  gwType : GatewayType
  client : GatewayConfig
  started : ℕ

inductive CacheError where
  | offline
  | client (message : String)

def maxCacheAge : ℕ := 5 * 60 * 1000

def maxStaleServeAge : ℕ := 30 * 60 * 1000

def lookupInterestWindow : ℕ := 30 * 60 * 1000

inductive LookupAction where
  | useCached
  | serveStaleAndRefresh
  | fetchInline

def LookupAction.forAge (age : ℕ) : LookupAction :=
  if age < maxCacheAge then .useCached
  else if age < maxStaleServeAge then .serveStaleAndRefresh
  else .fetchInline

def GatewayType.iter : List GatewayType := [.mixnetEntry, .mixnetExit, .wg]

structure GatewayCache where
  gatewayClient : GatewayConfig
  cachedGateways : GatewayType → Option (FetchedList × ℕ)
  lookupInterest : GatewayType → Option ℕ
  refreshing : List BackgroundRefresh
  nextId : ℕ
  isPerformedInitialRefresh : Bool
  handled : ℕ

structure CacheWorld where
  now : ℕ
  online : Bool
  answer : GatewayType → Except String (List Gateway)

inductive CacheCommand where
  | refreshAll
  | lookupGateways (gwType : GatewayType)
  | lookupFilteredGateways (gwType : GatewayType) (filters : GatewayFilters)
  | replaceGatewayClient (client : GatewayConfig)
  | clearCache

/-- What the loop selects. A background fetch that could not be joined has no result. -/
inductive CacheInput where
  | tick
  | joined (id : ℕ) (result : Option (Except String (List Gateway)))
  | command (command : CacheCommand)
  | connectivity (isOnline : Bool)

namespace GatewayCache

def spawn (client : GatewayConfig) : GatewayCache where
  gatewayClient := client
  cachedGateways := fun _ => none
  lookupInterest := fun _ => none
  refreshing := []
  nextId := 0
  isPerformedInitialRefresh := false
  handled := 0

section Handlers

variable (w : CacheWorld) (c : GatewayCache)

def fetch (gwType : GatewayType) : Except String FetchedList :=
  (w.answer gwType).map fun gateways => ⟨⟨some gwType, gateways⟩, c.gatewayClient, c.handled⟩

def store (gwType : GatewayType) (list : FetchedList) : GatewayCache :=
  { c with cachedGateways := Function.update c.cachedGateways gwType (some (list, w.now)) }

def isGatewaysCurrent (gwType : GatewayType) : Bool :=
  (c.cachedGateways gwType).any fun entry => w.now - entry.2 < maxCacheAge

def cancelBackgroundRefreshes : GatewayCache := { c with refreshing := [] }

def refreshOne (c : GatewayCache) (gwType : GatewayType) : GatewayCache :=
  match c.fetch w gwType with
  | .ok list => c.store w gwType list
  | .error _ => c

def refresh (gwTypes : List GatewayType) : GatewayCache :=
  if w.online then gwTypes.foldl (refreshOne w) c else c

def getStaleGatewayListTypes : List GatewayType :=
  GatewayType.iter.filter fun gwType => !c.isGatewaysCurrent w gwType

def refreshAll : GatewayCache := c.refresh w (c.getStaleGatewayListTypes w)

def performInitialFetchOnce : GatewayCache :=
  if c.isPerformedInitialRefresh then c
  else refreshAll w { c with isPerformedInitialRefresh := true }

def replaceGatewayClient (client : GatewayConfig) : GatewayCache :=
  let replaced := { c with gatewayClient := client }
  if client.minGatewayPerformance ≠ c.gatewayClient.minGatewayPerformance then
    cancelBackgroundRefreshes { replaced with cachedGateways := fun _ => none }
  else replaced

def clearCache : GatewayCache :=
  { cancelBackgroundRefreshes { c with cachedGateways := fun _ => none } with
    isPerformedInitialRefresh := false }

def spawnOne (c : GatewayCache) (gwType : GatewayType) : GatewayCache :=
  { c with
    refreshing := c.refreshing ++ [⟨c.nextId, gwType, c.gatewayClient, c.handled⟩]
    nextId := c.nextId + 1 }

def spawnBackgroundRefreshes (gwTypes : List GatewayType) : GatewayCache :=
  if w.online then
    (gwTypes.filter fun gwType => !c.refreshing.any (·.gwType == gwType)).foldl spawnOne c
  else c

def refreshRecentlyUsed : GatewayCache :=
  c.spawnBackgroundRefreshes w ((c.getStaleGatewayListTypes w).filter fun gwType =>
      (c.lookupInterest gwType).any fun asked => w.now - asked < lookupInterestWindow)

def storeBackgroundRefresh (id : ℕ) (result : Option (Except String (List Gateway))) :
    GatewayCache :=
  match c.refreshing.find? (·.id == id) with
  | none => c
  | some task =>
    let c := { c with refreshing := c.refreshing.filter (·.id != id) }
    match result with
    | some (.ok gateways) =>
      c.store w task.gwType ⟨⟨some task.gwType, gateways⟩, task.client, task.started⟩
    | _ => c

def fetchGatewaysInline (gwType : GatewayType) : Except CacheError FetchedList × GatewayCache :=
  if w.online then
    match c.fetch w gwType with
    | .ok list => (.ok list, c.store w gwType list)
    | .error err => (.error (.client err), c)
  else (.error .offline, c)

def refreshGateways (gwType : GatewayType) : Except CacheError FetchedList × GatewayCache :=
  match c.cachedGateways gwType with
  | none => c.fetchGatewaysInline w gwType
  | some (list, lastUpdated) =>
    match LookupAction.forAge (w.now - lastUpdated) with
    | .useCached => (.ok list, c)
    | .serveStaleAndRefresh => (.ok list, c.spawnBackgroundRefreshes w [gwType])
    | .fetchInline => c.fetchGatewaysInline w gwType

def noteInterest (gwType : GatewayType) : GatewayCache :=
  { c with lookupInterest := Function.update c.lookupInterest gwType (some w.now) }

/-- A cached list is returned even when its refresh failed. -/
def lookupGateways (gwType : GatewayType) : Except CacheError FetchedList × GatewayCache :=
  let (refreshed, c) := (c.noteInterest w gwType).refreshGateways w gwType
  match c.cachedGateways gwType with
  | some (list, _) => (.ok list, c)
  | none => (refreshed, c)

def lookupFilteredGateways (gwType : GatewayType) (filters : GatewayFilters) :
    Except CacheError FetchedList × GatewayCache :=
  let (found, c) := c.lookupGateways w gwType
  (found.map fun fetched => { fetched with list := ⟨some gwType, fetched.list.filter filters⟩ }, c)

/-- The list that is returned to the sender of a lookup, and the cache then. -/
def handle : CacheInput → Option (Except CacheError FetchedList) × GatewayCache
  | .tick => (none, c.refreshRecentlyUsed w)
  | .joined id result => (none, c.storeBackgroundRefresh w id result)
  | .command .refreshAll => (none, c.refreshAll w)
  | .command (.lookupGateways gwType) =>
    let (found, c) := c.lookupGateways w gwType
    (some found, c)
  | .command (.lookupFilteredGateways gwType filters) =>
    let (found, c) := c.lookupFilteredGateways w gwType filters
    (some found, c)
  | .command (.replaceGatewayClient client) => (none, c.replaceGatewayClient client)
  | .command .clearCache => (none, c.clearCache)
  | .connectivity isOnline => (none, if isOnline then c.performInitialFetchOnce w else c)

def step (input : CacheInput) : Option (Except CacheError FetchedList) × GatewayCache :=
  let (reply, c) := c.handle w input
  (reply, { c with handled := c.handled + 1 })

end Handlers

end GatewayCache

def CacheInput.mayFetch : CacheInput → Bool
  | .tick | .connectivity _ => true
  | .command .refreshAll | .command (.lookupGateways _)
  | .command (.lookupFilteredGateways _ _) => true
  | .joined _ _ | .command (.replaceGatewayClient _) | .command .clearCache => false

namespace GatewayCache

/-! ## Where the lists come from -/

/-- Every list that is kept, and every one that is on its way, comes from a fetch of a kind:
by its client and by the input it was started at. -/
structure FetchedBy (P : GatewayConfig → ℕ → Prop) (c : GatewayCache) : Prop where
  cached : ∀ gwType entry, c.cachedGateways gwType = some entry → P entry.1.client entry.1.started
  running : ∀ task ∈ c.refreshing, P task.client task.started

variable {P : GatewayConfig → ℕ → Prop} {w : CacheWorld} {c : GatewayCache}

variable {list : FetchedList} {gwType : GatewayType}

theorem FetchedBy.store (h : c.FetchedBy P) (gwType : GatewayType)
    (hlist : P list.client list.started) : (c.store w gwType list).FetchedBy P := by
  refine ⟨fun other entry hentry => ?_, h.running⟩
  unfold GatewayCache.store at hentry
  dsimp only at hentry
  rw [Function.update_apply] at hentry
  split at hentry
  · cases hentry
    exact hlist
  · exact h.cached other entry hentry

theorem fetch_eq_ok (h : c.fetch w gwType = .ok list) :
    list.client = c.gatewayClient ∧ list.started = c.handled := by
  unfold fetch at h
  cases hanswer : w.answer gwType with
  | error err => rw [hanswer] at h; cases h
  | ok gateways =>
    rw [hanswer] at h
    cases h
    exact ⟨rfl, rfl⟩

/-- What a handler that may fetch does: it keeps the client, and the lists it brings in are
fetched with it. -/
structure Grows (P : GatewayConfig → ℕ → Prop) (c c' : GatewayCache) : Prop where
  client : c'.gatewayClient = c.gatewayClient
  handled : c'.handled = c.handled
  fetchedBy : P c.gatewayClient c.handled → c.FetchedBy P → c'.FetchedBy P

theorem Grows.refl (P : GatewayConfig → ℕ → Prop) (c : GatewayCache) : Grows P c c :=
  ⟨rfl, rfl, fun _ h => h⟩

theorem Grows.trans {c₁ c₂ c₃ : GatewayCache} (h₁ : Grows P c₁ c₂) (h₂ : Grows P c₂ c₃) :
    Grows P c₁ c₃ where
  client := h₂.client.trans h₁.client
  handled := h₂.handled.trans h₁.handled
  fetchedBy := fun hclient h =>
    h₂.fetchedBy (by rw [h₁.client, h₁.handled]; exact hclient) (h₁.fetchedBy hclient h)

theorem Grows.foldl {f : GatewayCache → GatewayType → GatewayCache}
    (hf : ∀ c gwType, Grows P c (f c gwType)) (gwTypes : List GatewayType) (c : GatewayCache) :
    Grows P c (gwTypes.foldl f c) := by
  induction gwTypes generalizing c with
  | nil => exact Grows.refl P c
  | cons gwType gwTypes ih => exact (hf c gwType).trans (ih (f c gwType))

theorem grows_store (h : c.fetch w gwType = .ok list) : Grows P c (c.store w gwType list) := by
  obtain ⟨hclient, hstarted⟩ := fetch_eq_ok h
  refine ⟨rfl, rfl, fun hP hfetched => hfetched.store gwType ?_⟩
  rw [hclient, hstarted]
  exact hP

theorem grows_refreshOne (c : GatewayCache) (gwType : GatewayType) :
    Grows P c (refreshOne w c gwType) := by
  unfold refreshOne
  split
  next list hlist => exact grows_store hlist
  · exact Grows.refl P c

theorem grows_refresh (c : GatewayCache) (gwTypes : List GatewayType) :
    Grows P c (c.refresh w gwTypes) := by
  unfold refresh
  split
  · exact Grows.foldl grows_refreshOne gwTypes c
  · exact Grows.refl P c

theorem grows_performInitialFetchOnce (c : GatewayCache) :
    Grows P c (c.performInitialFetchOnce w) := by
  unfold performInitialFetchOnce
  split
  · exact Grows.refl P c
  · have hflag : Grows P c { c with isPerformedInitialRefresh := true } :=
      ⟨rfl, rfl, fun _ h => ⟨h.cached, h.running⟩⟩
    exact hflag.trans (grows_refresh _ _)

theorem grows_spawnOne (c : GatewayCache) (gwType : GatewayType) :
    Grows P c (spawnOne c gwType) := by
  refine ⟨rfl, rfl, fun hclient h => ⟨h.cached, fun task htask => ?_⟩⟩
  rcases List.mem_append.1 htask with htask | htask
  · exact h.running task htask
  · rw [List.mem_singleton.1 htask]
    exact hclient

theorem grows_spawnBackgroundRefreshes (c : GatewayCache) (gwTypes : List GatewayType) :
    Grows P c (c.spawnBackgroundRefreshes w gwTypes) := by
  unfold spawnBackgroundRefreshes
  split
  · exact Grows.foldl grows_spawnOne _ c
  · exact Grows.refl P c

theorem grows_fetchGatewaysInline (c : GatewayCache) (gwType : GatewayType) :
    Grows P c (c.fetchGatewaysInline w gwType).2 := by
  unfold fetchGatewaysInline
  split
  · split
    next list hlist => exact grows_store hlist
    · exact Grows.refl P c
  · exact Grows.refl P c

theorem grows_refreshGateways (c : GatewayCache) (gwType : GatewayType) :
    Grows P c (c.refreshGateways w gwType).2 := by
  unfold refreshGateways
  split
  · exact grows_fetchGatewaysInline c gwType
  · split
    · exact Grows.refl P c
    · exact grows_spawnBackgroundRefreshes c [gwType]
    · exact grows_fetchGatewaysInline c gwType

theorem grows_lookupGateways (c : GatewayCache) (gwType : GatewayType) :
    Grows P c (c.lookupGateways w gwType).2 := by
  have hasked : Grows P c (c.noteInterest w gwType) :=
    ⟨rfl, rfl, fun _ h => ⟨h.cached, h.running⟩⟩
  have hgrows := hasked.trans (grows_refreshGateways (w := w) _ gwType)
  unfold lookupGateways
  dsimp only
  split <;> exact hgrows

section Replies

variable (hclient : P c.gatewayClient c.handled) (h : c.FetchedBy P)

include hclient

variable {gwType : GatewayType} {list : FetchedList}

theorem reply_fetchGatewaysInline (hreply : (c.fetchGatewaysInline w gwType).1 = .ok list) :
    P list.client list.started := by
  unfold fetchGatewaysInline at hreply
  split at hreply
  · split at hreply
    next fetched hfetched =>
      cases hreply
      rw [(fetch_eq_ok hfetched).1, (fetch_eq_ok hfetched).2]
      exact hclient
    · cases hreply
  · cases hreply

include h

theorem reply_refreshGateways (hreply : (c.refreshGateways w gwType).1 = .ok list) :
    P list.client list.started := by
  unfold refreshGateways at hreply
  split at hreply
  · exact reply_fetchGatewaysInline hclient hreply
  next cached updated hcached =>
    split at hreply
    · cases hreply
      exact h.cached gwType _ hcached
    · cases hreply
      exact h.cached gwType _ hcached
    · exact reply_fetchGatewaysInline hclient hreply

theorem reply_lookupGateways (hreply : (c.lookupGateways w gwType).1 = .ok list) :
    P list.client list.started := by
  have hasked : (c.noteInterest w gwType).FetchedBy P := ⟨h.cached, h.running⟩
  have hclient : P (c.noteInterest w gwType).gatewayClient (c.noteInterest w gwType).handled :=
    hclient
  unfold lookupGateways at hreply
  dsimp only at hreply
  split at hreply
  next cached updated hcached =>
    cases hreply
    exact ((grows_refreshGateways _ gwType).fetchedBy hclient hasked).cached gwType _ hcached
  · exact reply_refreshGateways hclient hasked hreply

theorem reply_lookupFilteredGateways {filters : GatewayFilters}
    (hreply : (c.lookupFilteredGateways w gwType filters).1 = .ok list) :
    P list.client list.started := by
  unfold lookupFilteredGateways at hreply
  dsimp only at hreply
  cases hfound : (c.lookupGateways w gwType).1 with
  | error err => rw [hfound] at hreply; cases hreply
  | ok found =>
    have hfetched := reply_lookupGateways hclient h hfound
    rw [hfound] at hreply
    cases hreply
    exact hfetched

end Replies

theorem FetchedBy.storeBackgroundRefresh (h : c.FetchedBy P) (id : ℕ)
    (result : Option (Except String (List Gateway))) :
    (c.storeBackgroundRefresh w id result).FetchedBy P := by
  unfold GatewayCache.storeBackgroundRefresh
  split
  · exact h
  next task htask =>
    have hrest : FetchedBy P { c with refreshing := c.refreshing.filter (·.id != id) } :=
      ⟨h.cached, fun other hother => h.running other (List.mem_of_mem_filter hother)⟩
    split
    · exact hrest.store task.gwType (h.running task (List.mem_of_find?_eq_some htask))
    · exact hrest

theorem FetchedBy.replaceGatewayClient (h : c.FetchedBy P) (client : GatewayConfig) :
    (c.replaceGatewayClient client).FetchedBy P := by
  unfold GatewayCache.replaceGatewayClient
  split
  · exact ⟨nofun, nofun⟩
  · exact ⟨h.cached, h.running⟩

theorem FetchedBy.step (h : c.FetchedBy P) {input : CacheInput}
    (hclient : input.mayFetch = true → P c.gatewayClient c.handled) :
    (c.step w input).2.FetchedBy P ∧
      ∀ list, (c.step w input).1 = some (.ok list) → P list.client list.started := by
  suffices hhandle : (c.handle w input).2.FetchedBy P ∧
      ∀ list, (c.handle w input).1 = some (.ok list) → P list.client list.started from
    ⟨⟨hhandle.1.cached, hhandle.1.running⟩, hhandle.2⟩
  cases input with
  | tick => exact ⟨(grows_spawnBackgroundRefreshes c _).fetchedBy (hclient rfl) h, nofun⟩
  | joined id result => exact ⟨h.storeBackgroundRefresh id result, nofun⟩
  | connectivity isOnline =>
    cases isOnline with
    | true => exact ⟨(grows_performInitialFetchOnce c).fetchedBy (hclient rfl) h, nofun⟩
    | false => exact ⟨h, nofun⟩
  | command command =>
    cases command with
    | refreshAll => exact ⟨(grows_refresh c _).fetchedBy (hclient rfl) h, nofun⟩
    | lookupGateways gwType =>
      refine ⟨(grows_lookupGateways c gwType).fetchedBy (hclient rfl) h, fun list hlist => ?_⟩
      exact reply_lookupGateways (hclient rfl) h (Option.some.inj hlist)
    | lookupFilteredGateways gwType filters =>
      refine ⟨(grows_lookupGateways c gwType).fetchedBy (hclient rfl) h, fun list hlist => ?_⟩
      exact reply_lookupFilteredGateways (hclient rfl) h (Option.some.inj hlist)
    | replaceGatewayClient client => exact ⟨h.replaceGatewayClient client, nofun⟩
    | clearCache => exact ⟨⟨nofun, nofun⟩, nofun⟩

theorem handled_and_client_step (w : CacheWorld) (c : GatewayCache) (input : CacheInput) :
    (c.step w input).2.handled = c.handled + 1 ∧ (c.step w input).2.gatewayClient = match input with
      | .command (.replaceGatewayClient client) => client
      | _ => c.gatewayClient := by
  -- the kind of the lists does not matter here
  have hgrows {c' : GatewayCache} (h : Grows (fun _ _ => True) c c') :
      c'.handled + 1 = c.handled + 1 ∧ c'.gatewayClient = c.gatewayClient :=
    ⟨congrArg (· + 1) h.handled, h.client⟩
  change (c.handle w input).2.handled + 1 = _ ∧ (c.handle w input).2.gatewayClient = _
  cases input with
  | tick => exact hgrows (grows_spawnBackgroundRefreshes c _)
  | joined id result =>
    change (c.storeBackgroundRefresh w id result).handled + 1 = _ ∧
      (c.storeBackgroundRefresh w id result).gatewayClient = c.gatewayClient
    unfold storeBackgroundRefresh
    split
    · exact ⟨rfl, rfl⟩
    · split <;> exact ⟨rfl, rfl⟩
  | connectivity isOnline =>
    cases isOnline with
    | true => exact hgrows (grows_performInitialFetchOnce c)
    | false => exact ⟨rfl, rfl⟩
  | command command =>
    cases command with
    | refreshAll => exact hgrows (grows_refresh c _)
    | lookupGateways gwType | lookupFilteredGateways gwType filters =>
      exact hgrows (grows_lookupGateways c gwType)
    | replaceGatewayClient client =>
      change (c.replaceGatewayClient client).handled + 1 = _ ∧
        (c.replaceGatewayClient client).gatewayClient = client
      unfold replaceGatewayClient
      split <;> exact ⟨rfl, rfl⟩
    | clearCache => exact ⟨rfl, rfl⟩

end GatewayCache

end GatewayDirectory
