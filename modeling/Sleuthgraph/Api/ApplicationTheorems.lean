import Sleuthgraph.Api.Application

/-!
# Every handler is reached, and the guarded ones win

Two facts about the order in which `create_app` mounts its routers, for all its settings: a route is
apart from those before it unless it is a twin of `fastapi_users`, and a twin comes after the route
that stands in for it. Both are checked on the table with everything switched on, of which all other
tables are sublists.
-/

namespace Sleuthgraph

open Routing

/-! ## Paths -/

/-- `/` before each segment -/
def pathText (segments : List String) : String :=
  String.ofList (segments.flatMap fun s => '/' :: s.toList)

/-- Neither a slash nor a line break. -/
def CleanSegment (s : String) : Prop := '/' ∉ s.toList ∧ '\n' ∉ s.toList

instance : DecidablePred CleanSegment := fun s =>
  inferInstanceAs (Decidable ('/' ∉ s.toList ∧ '\n' ∉ s.toList))

/-- A literal is clean. -/
def CleanPiece : Piece String PathParam → Prop
  | .lit s => CleanSegment s
  | .param _ => True

instance : DecidablePred CleanPiece
  | .lit s => inferInstanceAs (Decidable (CleanSegment s))
  | .param _ => inferInstanceAs (Decidable True)

/-- The literals of a template are clean. -/
def CleanTemplate (t : PathTemplate) : Prop := ∀ p ∈ t, CleanPiece p

instance : DecidablePred CleanTemplate := fun t =>
  inferInstanceAs (Decidable (∀ p ∈ t, CleanPiece p))

lemma splitAt_slash (s : List Char) : splitAt '/' ('/' :: s) = [] :: splitAt '/' s :=
  if_pos rfl

lemma splitAt_pathText {segments : List String} (h : ∀ s ∈ segments, CleanSegment s) :
    splitAt '/' (segments.flatMap fun s => '/' :: s.toList) = [] :: segments.map String.toList := by
  induction segments with
  | nil => rfl
  | cons s segments ih =>
    have hsegments := ih fun s' hs' => h s' (List.mem_cons_of_mem s hs')
    have hpiece := splitAt_of_notMem (h s List.mem_cons_self).1
    rw [List.flatMap_cons, List.cons_append, splitAt_slash, List.map_cons]
    cases segments with
    | nil => rw [List.flatMap_nil, List.append_nil, hpiece, List.map_nil]
    | cons s' segments =>
      rw [List.flatMap_cons, List.cons_append, splitAt_slash] at hsegments
      rw [List.flatMap_cons, List.cons_append, splitAt_append_cons, hpiece,
        List.tail_eq_of_cons_eq hsegments]
      rfl

/-- A path of clean segments is matched segment by segment. -/
lemma templateMatches_pathText {t : PathTemplate} {segments : List String}
    (h : ∀ s ∈ segments, CleanSegment s) :
    templateMatches t (pathText segments) = matchesAll pathSegments t segments := by
  have hpath : pathMatches t (segments.flatMap fun s => '/' :: s.toList)
      = matchesAll pathSegments t segments := by
    rw [pathMatches, splitAt_pathText h]
    show matchesAll pathSegments t ((segments.map String.toList).map String.ofList) = _
    rw [List.map_map]
    simp [Function.comp_def]
  have hbreak : '\n' ∉ segments.flatMap fun s => '/' :: s.toList := by
    rw [List.mem_flatMap]
    rintro ⟨s, hs, hmem⟩
    rcases List.mem_cons.mp hmem with hslash | hmem
    · cases hslash
    · exact (h s hs).2 hmem
  have hlast : (segments.flatMap fun s => '/' :: s.toList).getLast? ≠ some '\n' := by
    intro hlast
    exact hbreak (List.mem_of_getLast? hlast)
  rw [templateMatches, pathText, String.toList_ofList, dollar, hpath]
  simp [hlast]

/-- A UUID is written in hexadecimal digits and hyphens. -/
lemma notMem_uuidText {c : Char} (hdigit : ∀ n < 16, Nat.digitChar n ≠ c) (hhyphen : c ≠ '-')
    (id : UUID) : c ∉ uuidText id := by
  have hhex : ∀ width n, c ∉ hexText width n := by
    intro width n hmem
    obtain ⟨i, -, hi⟩ := List.mem_map.mp hmem
    exact hdigit _ (Nat.mod_lt _ (by decide)) hi
  simp [uuidText, hhex, hhyphen]

lemma cleanSegment_of_meant {k : PathParam} {s : String} (h : k.Meant s) : CleanSegment s := by
  cases k with
  | name => exact h.2
  | uuid =>
    obtain ⟨id, rfl⟩ := h
    rw [CleanSegment, String.toList_ofList]
    exact ⟨notMem_uuidText (by decide) (by decide) id, notMem_uuidText (by decide) (by decide) id⟩

/-- The segments of a path that a template is meant for. -/
lemma clean_of_fills {t : PathTemplate} {segments : List String} (ht : CleanTemplate t)
    (h : Fills pathSegments t segments) : ∀ s ∈ segments, CleanSegment s := by
  induction t generalizing segments with
  | nil =>
    cases segments with
    | nil => exact fun s hs => absurd hs List.not_mem_nil
    | cons s segments => exact h.elim
  | cons p t ih =>
    cases segments with
    | nil => exact h.elim
    | cons s segments =>
      have hrest := ih (fun p' hp' => ht p' (List.mem_cons_of_mem p hp')) h.2
      have hfirst : CleanSegment s := by
        cases p with
        | lit l =>
          obtain rfl : s = l := h.1
          exact ht _ List.mem_cons_self
        | param k => exact cleanSegment_of_meant h.1
      exact List.forall_mem_cons.mpr ⟨hfirst, hrest⟩

/-! ## Tables -/

/-- The libraries as they are documented. -/
def documentedRoutes : RouteLibraries where
  docs := [(.get, [.lit "openapi.json"]), (.get, [.lit "docs"]),
    (.get, [.lit "docs", .lit "oauth2-redirect"]), (.get, [.lit "redoc"])]
  authRouter := [(.post, [.lit "login"]), (.post, [.lit "logout"])]
  registerRouter := [(.post, [.lit "register"])]
  resetPasswordRouter := [(.post, [.lit "forgot-password"]), (.post, [.lit "reset-password"])]
  verifyRouter := [(.post, [.lit "request-verify-token"]), (.post, [.lit "verify"])]
  usersRouter := [(.get, [.lit "me"]), (.patch, [.lit "me"]),
    (.get, [.param .uuid]), (.patch, [.param .uuid]), (.delete, [.param .uuid])]

lemma documentedRoutes_documented : documentedRoutes.Documented := ⟨rfl, rfl, rfl, rfl, rfl, rfl⟩

lemma RouteLibraries.Documented.eq {lib : RouteLibraries} (h : lib.Documented) :
    lib = documentedRoutes := by
  obtain ⟨docs, auth, register, reset, verify, users⟩ := lib
  obtain ⟨rfl, rfl, rfl, rfl, rfl, rfl⟩ := h
  rfl

/-- Everything is switched on. -/
def everything : AppSettings := ⟨true, true, true, true⟩

/-- The table with everything switched on. -/
def allRoutes : List AppRoute := createApp documentedRoutes everything

lemma createApp_sublist (settings : AppSettings) :
    (createApp documentedRoutes settings).Sublist allRoutes := by
  have hif : ∀ (b : Bool) (routes : List AppRoute),
      (if b = true then routes else []).Sublist routes := by
    intro b routes
    cases b with
    | false => exact List.nil_sublist routes
    | true => exact List.Sublist.refl routes
  unfold allRoutes createApp
  repeat' apply List.Sublist.append
  all_goals first | exact hif _ _ | exact List.Sublist.refl _

/-- The handlers that stand in for those of `fastapi_users`. -/
def guards : List AppRoute :=
  includeRouter [.lit "auth"]
    (loginRouter ++ registerRouter ++ forgotPasswordRouter ++ resetPasswordRouter ++ verifyRouter)

/-- The two routes have the same method and the same template. -/
def SameKey (r r' : AppRoute) : Prop := r.method = r'.method ∧ r.template = r'.template

instance (r r' : AppRoute) : Decidable (SameKey r r') :=
  inferInstanceAs (Decidable (r.method = r'.method ∧ r.template = r'.template))

/-- A route of `fastapi_users` that another handler stands in for. -/
def Twin (r : AppRoute) : Prop := r.endpoint = .fastapiUsers ∧ ∃ g ∈ guards, SameKey r g

instance : DecidablePred Twin := fun r =>
  inferInstanceAs (Decidable (r.endpoint = .fastapiUsers ∧ ∃ g ∈ guards, SameKey r g))

section Checks

set_option maxRecDepth 8000

lemma allRoutes_clean : ∀ r ∈ allRoutes, CleanTemplate r.template := by decide

/-- Each route is apart from those before it, unless it is a twin. -/
lemma allRoutes_apart : allRoutes.Pairwise fun r₁ r₂ =>
    r₁.method ≠ r₂.method ∨ apart pathSegments r₁.template r₂.template = true ∨ Twin r₂ := by
  decide

/-- A route that stands in comes before its twins. -/
lemma allRoutes_guards : ∀ g ∈ guards, allRoutes.Pairwise fun r₁ r₂ =>
    r₂ = g → r₁ = g ∨ ¬ SameKey r₁ g := by
  decide

/-- Where a twin is mounted, so is the route that stands in for it; where the route is not, nothing
matches its path. -/
lemma guards_mounted (settings : AppSettings) : ∀ g ∈ guards,
    g ∈ createApp documentedRoutes settings ∨
      ∀ r ∈ createApp documentedRoutes settings,
        r.method ≠ g.method ∨ apart pathSegments r.template g.template = true := by
  obtain ⟨docs, signup, reset, verify⟩ := settings
  cases docs <;> cases signup <;> cases reset <;> cases verify <;> decide

lemma guards_subset : ∀ g ∈ guards, g ∈ allRoutes := by decide

lemma guards_not_twin : ∀ g ∈ guards, ¬ Twin g := by decide

end Checks

/-! ## Dispatch -/

section Dispatch

variable {lib : RouteLibraries} {settings : AppSettings} {r g : AppRoute} {segments : List String}

/-- A path that a route is meant for is matched by the route, and by no route that is apart from
it. -/
lemma templateMatches_of_fills (hr : r ∈ allRoutes) (h : Fills pathSegments r.template segments) :
    templateMatches r.template (pathText segments) = true ∧
      ∀ t, apart pathSegments t r.template = true →
        templateMatches t (pathText segments) = false := by
  have hclean := clean_of_fills (allRoutes_clean r hr) h
  refine ⟨?_, fun t ht => ?_⟩
  · rw [templateMatches_pathText hclean, matchesAll_of_fills h]
  · rw [templateMatches_pathText hclean, not_matchesAll_of_apart ht h]

/-- A route that is mounted and no twin gets the requests that it is meant for. -/
lemma dispatch_pathText (hr : r ∈ createApp documentedRoutes settings) (htwin : ¬ Twin r)
    (h : Fills pathSegments r.template segments) :
    dispatch templateMatches (createApp documentedRoutes settings) r.method (pathText segments)
      = some r := by
  obtain ⟨hmatch, hapart⟩ :=
    templateMatches_of_fills ((createApp_sublist settings).subset hr) h
  refine dispatch_eq hr hmatch ((allRoutes_apart.sublist (createApp_sublist settings)).imp ?_)
  intro r₁ r₂ hpair hr₂ hmethod
  subst hr₂
  rcases hpair with hother | hclear | hr₂
  · exact absurd hmethod hother
  · exact hapart r₁.template hclear
  · exact absurd hr₂ htwin

/-- **Every handler is reached.** For all settings, each route that is mounted, but for the twins of
`fastapi_users`, gets every request whose path fills its template with ids and names. -/
theorem routes_reached (hdoc : lib.Documented) (hr : r ∈ createApp lib settings)
    (htwin : ¬ Twin r) (h : Fills pathSegments r.template segments) :
    dispatch templateMatches (createApp lib settings) r.method (pathText segments) = some r := by
  rw [hdoc.eq] at hr ⊢
  exact dispatch_pathText hr htwin h

/-- A route that shares the method and the template of a guarded one is the guarded one. -/
lemma eq_guard_of_dispatch {method : Method} {path : String} (hg : g ∈ guards)
    (hdispatch : dispatch templateMatches (createApp documentedRoutes settings) method path
      = some r)
    (hkey : SameKey r g) : r = g := by
  have hr : r ∈ createApp documentedRoutes settings := mem_of_dispatch hdispatch
  rcases guards_mounted settings g hg with hmounted | hnone
  · exact eq_of_dispatch hdispatch hmounted hkey
      ((allRoutes_guards g hg).sublist (createApp_sublist settings))
  · rcases hnone r hr with hmethod | hapart
    · exact absurd hkey.1 hmethod
    · rw [hkey.2, apart_self] at hapart
      cases hapart

/-- Nobody gets the requests on the path of a guarded handler that is switched off. -/
lemma dispatch_guard_missing (hg : g ∈ guards)
    (hmissing : g ∉ createApp documentedRoutes settings)
    (h : Fills pathSegments g.template segments) :
    dispatch templateMatches (createApp documentedRoutes settings) g.method (pathText segments)
      = none := by
  have hnone := (guards_mounted settings g hg).resolve_left hmissing
  have hapart := (templateMatches_of_fills (guards_subset g hg) h).2
  exact dispatch_eq_none fun r hr => (hnone r hr).imp_right (hapart r.template)

/-- **The guarded handlers win.** For all settings, no request whatever gets to a twin of a guarded
handler; the guarded handler gets the requests on its path when its feature is switched on, and
nobody gets them when it is off. -/
theorem guards_win (hdoc : lib.Documented) (settings : AppSettings) (hg : g ∈ guards) :
    (∀ method path r, dispatch templateMatches (createApp lib settings) method path = some r →
      SameKey r g → r = g) ∧
    ∀ segments, Fills pathSegments g.template segments →
      dispatch templateMatches (createApp lib settings) g.method (pathText segments)
        = if g ∈ createApp lib settings then some g else none := by
  rw [hdoc.eq]
  refine ⟨fun _ _ _ hdispatch hkey => eq_guard_of_dispatch hg hdispatch hkey, ?_⟩
  intro segments hfills
  by_cases hmounted : g ∈ createApp documentedRoutes settings
  · rw [if_pos hmounted]
    exact dispatch_pathText hmounted (guards_not_twin g hg) hfills
  · rw [if_neg hmounted]
    exact dispatch_guard_missing hg hmounted hfills

end Dispatch

/-! ### Requests to the default table -/

/-- The route of one piece of evidence, which is mounted after `export`. -/
def evidenceRoute : AppRoute := ⟨.get, inCasePath "evidence" ++ [.param .uuid], .getEvidence⟩

theorem routes_reached_evidence :
    dispatch templateMatches (createApp documentedRoutes {}) .get
        (pathText ["cases", String.ofList (uuidText 7), "evidence", String.ofList (uuidText 8)])
      = some evidenceRoute :=
  routes_reached (r := evidenceRoute) documentedRoutes_documented (by decide) (by decide)
    ⟨rfl, ⟨7, rfl⟩, rfl, ⟨8, rfl⟩, trivial⟩

/-- The login that counts its attempts. -/
def loginRoute : AppRoute := ⟨.post, [.lit "auth", .lit "login"], .login⟩

theorem guards_win_login :
    dispatch templateMatches (createApp documentedRoutes {}) .post (pathText ["auth", "login"])
      = some loginRoute := by
  have hguard : loginRoute ∈ guards := by decide
  have hmounted : loginRoute ∈ createApp documentedRoutes {} := by decide
  have hlogin := (guards_win documentedRoutes_documented {} hguard).2 ["auth", "login"]
    ⟨rfl, rfl, trivial⟩
  rw [if_pos hmounted] at hlogin
  exact hlogin

end Sleuthgraph
