import FaultGate.Server.Endpoint

/-!
# Routes and runs

A request finds its route by its exact path and its endpoint by its method. Both layers stand
around whatever answers it, and also around the answers that there is no such path or method.
What the protocol says about single methods is done last, outside of the layers. The header with
the length of the body is left to the transport, so that no response carries it here.
-/

namespace FaultGate.Server

open FaultGate.Http (Request Response Service)

/-- A path, and the endpoints that answer its methods. -/
structure Route where
  path : String
  get : Option Endpoint
  post : Option Endpoint
  deriving DecidableEq, Repr

def routes : List Route :=
  [⟨healthPath, some .health, none⟩,
    ⟨maintenancePath, some .maintenanceStatus, some .switchMaintenance⟩,
    ⟨"/api/v1/ping", some .ping, none⟩,
    ⟨"/api/v1/quota", none, some .quota⟩,
    ⟨"/api/v1/crash", some .crash, none⟩,
    ⟨"/crash", some .crash, none⟩]

namespace Route

/-- The endpoint for a method. What can be got can also be asked for its headers alone. -/
def endpoint? (r : Route) (method : String) : Option Endpoint :=
  if method = "GET" || method = "HEAD" then r.get
  else if method = "POST" then r.post
  else none

/-- The methods of the route, as a response lists them. -/
def allowed (r : Route) : String :=
  match r.get, r.post with
  | some _, some _ => "GET,HEAD,POST"
  | some _, none => "GET,HEAD"
  | none, some _ => "POST"
  | none, none => ""

end Route

def route? (path : String) : Option Route :=
  routes.find? (·.path = path)

/-- What answers a request inside the layers. -/
def innermost (server : Server) : Service Condition := fun request c =>
  match route? request.uri.path with
  | none => .quiet (.bare .notFound) c
  | some route =>
    match route.endpoint? request.method with
    | none => .quiet (.bare .methodNotAllowed) c
    | some endpoint => endpoint.answer server request c

/-- What answers a request, with both layers. -/
def layered (server : Server) (freshId : String) : Service Condition :=
  server.faults.layer (server.switch.layer (innermost server)) freshId

/-- The methods that the response lists: those of the route, where none of them was asked for. -/
def listedMethods? (request : Request) : Option String :=
  match route? request.uri.path with
  | none => none
  | some route => if (route.endpoint? request.method).isNone then some route.allowed else none

/-- Is the body of the response kept when only headers are asked for? It is where no route was
found, except for targets that have no path. -/
def keepsBody (request : Request) : Bool :=
  (route? request.uri.path).isNone && beginsWith request.uri.path "/"

def serve (server : Server) (freshId : String) : Service Condition := fun request c =>
  let reply := layered server freshId request c
  let response := reply.response.forMethod request.method (listedMethods? request)
    (keepsBody request)
  { reply with response }

/-- What happens to a running server. -/
inductive Step where
  /-- A request comes in, with a fresh id for it. -/
  | request (freshId : String) (request : Request)
  | files (change : FileTree → FileTree)

/-- The condition after a step, with the answer if it was a request. -/
def step (server : Server) (c : Condition) :
    Step → Condition × Option (Request × Http.Reply Condition)
  | .request freshId request =>
    let reply := serve server freshId request c
    (reply.state, some (request, reply))
  | .files change => ({ c with files := change c.files }, none)

/-- The conditions and answers of a run, in order. -/
def run (server : Server) : Condition → List Step → List (Request × Http.Reply Condition)
  | _, [] => []
  | c, s :: rest =>
    let (next, answered) := step server c s
    answered.toList ++ run server next rest

def conditionAfter (server : Server) (c : Condition) (steps : List Step) : Condition :=
  steps.foldl (fun c s => (step server c s).1) c

end FaultGate.Server
