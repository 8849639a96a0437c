import Easel.Http

/-!
What can be asked of the service: its endpoints, each with a path and a method, and the way of a request to one of them.
-/

namespace Easel.Service

open Http

inductive Endpoint
  | compile
  | postCommand
  | pollCommand
  | clearCommands
  | pluginStatus
  | health
  | description
  deriving Repr, DecidableEq

namespace Endpoint

def all : List Endpoint :=
  [.compile, .postCommand, .pollCommand, .clearCommands, .pluginStatus, .health, .description]

def method : Endpoint → String
  | .compile | .postCommand => "POST"
  | .clearCommands => "DELETE"
  | .pollCommand | .pluginStatus | .health | .description => "GET"

def path : Endpoint → String
  | .compile => "/api/claude"
  | .postCommand | .pollCommand | .clearCommands => "/api/commands"
  | .pluginStatus => "/api/plugin-status"
  | .health => "/api/health"
  | .description => "/openapi.json"

/-- The description can also be asked for without its content. -/
def accepts (e : Endpoint) (method : String) : Bool :=
  method = e.method || (e = .description && method = "HEAD")

/-- A single line feed at the end of a path does not count. -/
def isAt (e : Endpoint) (path : String) : Bool :=
  path = e.path || path = e.path ++ "\n"

end Endpoint

def isPath (path : String) : Bool :=
  Endpoint.all.any (·.isAt path)

/-- A known path with slashes at its end is sent on to the path without them. -/
def endpoint (r : Request) : Except Response Endpoint :=
  match Endpoint.all.find? fun e => e.isAt r.path && e.accepts r.method with
  | some e => .ok e
  | none =>
    if isPath r.path then .error (.detail 405 (.str "Method Not Allowed"))
    else if isPath (withoutSlashes r.path) then .error (.ofText 307 "")
    else .error (.detail 404 (.str "Not Found"))

end Easel.Service
