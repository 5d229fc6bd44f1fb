import Sleuthgraph.Lib.Routing
import Sleuthgraph.Text

/-!
# The table of routes (`main.py`)

`create_app` mounts the routers one after the other, and a request goes to the first route that
matches. Some handlers stand in for those that `fastapi_users` brings under the same paths, and are
mounted before them. The routers of `fastapi_users` and the documentation routes of FastAPI are
libraries, so they are parameters here.
-/

namespace Sleuthgraph

open Routing

/-! ## Requests -/

/-- The method of a request. -/
inductive Method where
  | get
  | post
  | patch
  | delete
  | other (name : String)
deriving DecidableEq

/-- What the handler of a path parameter makes of it. -/
inductive PathParam where
  | uuid
  | name
deriving DecidableEq

abbrev PathTemplate := Template String PathParam

/-- A value that a parameter is meant for. FastAPI reads an id off any text of a UUID; that of
`str(id)` is one. -/
def PathParam.Meant : PathParam → String → Prop
  | .uuid, segment => ∃ id : UUID, segment = String.ofList (uuidText id)
  | .name, segment => segment ≠ "" ∧ '/' ∉ segment.toList ∧ '\n' ∉ segment.toList

/-- No UUID has the segment as its text. -/
def PathParam.rejects : PathParam → String → Bool
  | .uuid, segment => segment.length ≠ 36
  | .name, _ => false

lemma length_ofList_uuidText (id : UUID) : (String.ofList (uuidText id)).length = 36 := by
  rw [String.length_ofList, length_uuidText]

/-- `[^/]+` -/
def pathSegments : Segments String PathParam where
  admits segment := segment ≠ ""
  meant := PathParam.Meant
  rejects := PathParam.rejects
  admits_of_meant k s h := by
    cases k with
    | uuid =>
      obtain ⟨id, rfl⟩ := h
      refine decide_eq_true fun hempty => ?_
      have hlength := length_ofList_uuidText id
      rw [hempty] at hlength
      cases hlength
    | name => exact decide_eq_true h.1
  not_meant_of_rejects k s hrejects h := by
    cases k with
    | name => cases hrejects
    | uuid =>
      obtain ⟨id, rfl⟩ := h
      exact of_decide_eq_true hrejects (length_ofList_uuidText id)

/-- The segments of a path after its leading slash. -/
def pathMatches (template : PathTemplate) (path : List Char) : Bool :=
  match splitAt '/' path with
  | [] :: segments => matchesAll pathSegments template (segments.map String.ofList)
  | _ => false

/-- The expression that Starlette compiles a template to ends with `$`. -/
def templateMatches (template : PathTemplate) (path : String) : Bool :=
  dollar (pathMatches template) path.toList

/-! ## Routers -/

/-- The handlers. Those of `fastapi_users` and of the documentation are not told apart. -/
inductive Endpoint where
  | docs
  | health
  | readiness
  | login
  | register
  | forgotPassword
  | resetPassword
  | requestVerifyToken
  | fastapiUsers
  | oidcStatus
  | authConfig
  | oidcLogin
  | oidcCallback
  | authPing
  | storeKey
  | listKeys
  | removeKey
  | createCase
  | listCases
  | getCase
  | updateCase
  | deleteCase
  | createEntity
  | listEntities
  | getEntity
  | updateEntity
  | deleteEntity
  | exportEvidenceLedger
  | createRelationship
  | listRelationships
  | getRelationship
  | deleteRelationship
  | getGraph
  | listPlugins
  | getPlugin
  | runPlugin
  | listRuns
  | getRun
  | createEvidence
  | listEvidence
  | getEvidence
  | getEvidenceBlob
  | verifyEvidenceHash
deriving DecidableEq

abbrev AppRoute := Route String PathParam Method Endpoint

/-- Routes, before they are mounted. -/
abbrev Router := List AppRoute

/-- `include_router(router, prefix=...)`. The paths of a router with a prefix of its own come with
it. -/
def includeRouter (pre : PathTemplate) (router : Router) : List AppRoute :=
  router.map fun r => { r with template := pre ++ r.template }

/-- `/cases/{case_id}/` and the name of a collection -/
def inCasePath (collection : String) : PathTemplate := [.lit "cases", .param .uuid, .lit collection]

def healthRouter : Router :=
  [⟨.get, [.lit "health"], .health⟩, ⟨.get, [.lit "readiness"], .readiness⟩]

def loginRouter : Router := [⟨.post, [.lit "login"], .login⟩]

def registerRouter : Router := [⟨.post, [.lit "register"], .register⟩]

def forgotPasswordRouter : Router := [⟨.post, [.lit "forgot-password"], .forgotPassword⟩]

def resetPasswordRouter : Router := [⟨.post, [.lit "reset-password"], .resetPassword⟩]

def verifyRouter : Router := [⟨.post, [.lit "request-verify-token"], .requestVerifyToken⟩]

def oidcRouter : Router :=
  [⟨.get, [.lit "oidc-status"], .oidcStatus⟩,
    ⟨.get, [.lit "config"], .authConfig⟩,
    ⟨.get, [.lit "oidc", .lit "login"], .oidcLogin⟩,
    ⟨.get, [.lit "oidc", .lit "callback"], .oidcCallback⟩]

def authPingRouter : Router := [⟨.get, [.lit "ping"], .authPing⟩]

def credentialsRouter : Router :=
  includeRouter [.lit "credentials"]
    [⟨.post, [.param .name], .storeKey⟩,
      ⟨.get, [], .listKeys⟩,
      ⟨.delete, [.param .name], .removeKey⟩]

def casesRouter : Router :=
  includeRouter [.lit "cases"]
    [⟨.post, [], .createCase⟩,
      ⟨.get, [], .listCases⟩,
      ⟨.get, [.param .uuid], .getCase⟩,
      ⟨.patch, [.param .uuid], .updateCase⟩,
      ⟨.delete, [.param .uuid], .deleteCase⟩]

def entitiesRouter : Router :=
  includeRouter (inCasePath "entities")
    [⟨.post, [], .createEntity⟩,
      ⟨.get, [], .listEntities⟩,
      ⟨.get, [.param .uuid], .getEntity⟩,
      ⟨.patch, [.param .uuid], .updateEntity⟩,
      ⟨.delete, [.param .uuid], .deleteEntity⟩]

def evidenceExportRouter : Router :=
  includeRouter (inCasePath "evidence") [⟨.get, [.lit "export"], .exportEvidenceLedger⟩]

def relationshipsRouter : Router :=
  includeRouter (inCasePath "relationships")
    [⟨.post, [], .createRelationship⟩,
      ⟨.get, [], .listRelationships⟩,
      ⟨.get, [.param .uuid], .getRelationship⟩,
      ⟨.delete, [.param .uuid], .deleteRelationship⟩]

def graphRouter : Router := includeRouter (inCasePath "graph") [⟨.get, [], .getGraph⟩]

def pluginRegistryRouter : Router :=
  includeRouter [.lit "plugins"]
    [⟨.get, [], .listPlugins⟩, ⟨.get, [.param .name], .getPlugin⟩]

def pluginCaseRouter : Router :=
  includeRouter (inCasePath "plugins")
    [⟨.post, [.param .name, .lit "run"], .runPlugin⟩,
      ⟨.get, [.lit "runs"], .listRuns⟩,
      ⟨.get, [.lit "runs", .param .uuid], .getRun⟩]

def evidenceRouter : Router :=
  includeRouter (inCasePath "evidence")
    [⟨.post, [], .createEvidence⟩,
      ⟨.get, [], .listEvidence⟩,
      ⟨.get, [.param .uuid], .getEvidence⟩,
      ⟨.get, [.param .uuid, .lit "blob"], .getEvidenceBlob⟩,
      ⟨.post, [.param .uuid, .lit "verify"], .verifyEvidenceHash⟩]

/-! ## Libraries -/

/-- The routes that FastAPI adds for the documentation, and those of the routers of
`fastapi_users`. -/
structure RouteLibraries where
  docs : List (Method × PathTemplate)
  authRouter : List (Method × PathTemplate)
  registerRouter : List (Method × PathTemplate)
  resetPasswordRouter : List (Method × PathTemplate)
  verifyRouter : List (Method × PathTemplate)
  usersRouter : List (Method × PathTemplate)

/-- The routes as they are documented. -/
structure RouteLibraries.Documented (lib : RouteLibraries) : Prop where
  docs : lib.docs = [(.get, [.lit "openapi.json"]), (.get, [.lit "docs"]),
    (.get, [.lit "docs", .lit "oauth2-redirect"]), (.get, [.lit "redoc"])]
  authRouter : lib.authRouter = [(.post, [.lit "login"]), (.post, [.lit "logout"])]
  registerRouter : lib.registerRouter = [(.post, [.lit "register"])]
  resetPasswordRouter : lib.resetPasswordRouter
    = [(.post, [.lit "forgot-password"]), (.post, [.lit "reset-password"])]
  verifyRouter : lib.verifyRouter
    = [(.post, [.lit "request-verify-token"]), (.post, [.lit "verify"])]
  usersRouter : lib.usersRouter = [(.get, [.lit "me"]), (.patch, [.lit "me"]),
    (.get, [.param .uuid]), (.patch, [.param .uuid]), (.delete, [.param .uuid])]

/-- A router of a library. -/
def libraryRouter (endpoint : Endpoint) (routes : List (Method × PathTemplate)) : Router :=
  routes.map fun route => ⟨route.1, route.2, endpoint⟩

/-! ## `create_app` -/

structure AppSettings where
  exposeApiDocs : Bool := true
  authAllowSignup : Bool := false
  authAllowPasswordReset : Bool := true
  authAllowEmailVerify : Bool := false

/-- The routes that `create_app` mounts, in their order. -/
def createApp (lib : RouteLibraries) (settings : AppSettings) : List AppRoute :=
  (if settings.exposeApiDocs then libraryRouter .docs lib.docs else [])
    ++ healthRouter
    ++ includeRouter [.lit "auth"] loginRouter
    ++ includeRouter [.lit "auth"] (libraryRouter .fastapiUsers lib.authRouter)
    ++ (if settings.authAllowSignup then
        includeRouter [.lit "auth"] registerRouter
          ++ includeRouter [.lit "auth"] (libraryRouter .fastapiUsers lib.registerRouter)
      else [])
    ++ (if settings.authAllowPasswordReset then
        includeRouter [.lit "auth"] forgotPasswordRouter
          ++ includeRouter [.lit "auth"] resetPasswordRouter
          ++ includeRouter [.lit "auth"] (libraryRouter .fastapiUsers lib.resetPasswordRouter)
      else [])
    ++ (if settings.authAllowEmailVerify then
        includeRouter [.lit "auth"] verifyRouter
          ++ includeRouter [.lit "auth"] (libraryRouter .fastapiUsers lib.verifyRouter)
      else [])
    ++ includeRouter [.lit "users"] (libraryRouter .fastapiUsers lib.usersRouter)
    ++ includeRouter [.lit "auth"] oidcRouter
    ++ includeRouter [.lit "auth"] authPingRouter
    ++ credentialsRouter
    ++ casesRouter
    ++ entitiesRouter
    -- before `evidenceRouter`, whose `{ev_id}` would take `export`
    ++ evidenceExportRouter
    ++ relationshipsRouter
    ++ graphRouter
    ++ pluginRegistryRouter
    ++ pluginCaseRouter
    ++ evidenceRouter

end Sleuthgraph
