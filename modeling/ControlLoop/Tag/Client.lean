import ControlLoop.Tag.Call

/-!
# The tag client

The tag service may be reached through the remote side: a call of it is then one remote
request, and what is listed is read from the answer.
-/

namespace ControlLoop

/-- A client of the tag service that makes remote calls, in terms of the state of the
outside. -/
structure TagClient (World : Type) where
  /-- Make a remote call. -/
  send : Request → World → Except RemoteError Json × World

namespace TagClient

variable {World : Type}

/-- List the tags of a resource. -/
def describe (client : TagClient World) (resource : TagResource) (world : World) :
    Except RemoteError TagSet × World :=
  let (answer, world) := client.send (TagCall.describe.toRequest resource) world
  (answer.bind fun json =>
    match TagCall.tags? json with
    | some tags => .ok tags
    | none => .error TagCall.malformedTags, world)

/-- Make a call that changes tags. -/
def change (client : TagClient World) (resource : TagResource) (call : TagCall)
    (world : World) : Except RemoteError Unit × World :=
  let (answer, world) := client.send (call.toRequest resource) world
  (answer.map fun _ => (), world)

/-- Set pairs. -/
def replace (client : TagClient World) (resource : TagResource) (tags : TagSet) :
    World → Except RemoteError Unit × World :=
  client.change resource (.replace tags)

/-- Remove keys. -/
def delete (client : TagClient World) (resource : TagResource) (keys : KeySet) :
    World → Except RemoteError Unit × World :=
  client.change resource (.delete keys)

end TagClient

end ControlLoop
