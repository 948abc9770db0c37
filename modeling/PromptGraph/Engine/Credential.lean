import PromptGraph.Failure
import PromptGraph.Schema.Field

/-!
# `PromptGraph.Engine.Credential` — credentials of the engine
-/

namespace PromptGraph

/-- A credential as the engine stores it. -/
structure Credential where
  id : Option String
  name : String
  type : String
  data : Members

namespace Credential

open Schema

/-- The credential in a value; unknown members are ignored. -/
def read (v : Json) : Except Failure Credential :=
  ((record v).andThen fun ms =>
    Credential.mk <$> withDefault ms "id" (optional identifier) none <*> required ms "name" text
      <*> required ms "type" text <*> withDefault ms "data" mapping []).toExcept "N8nCredential"

/-- The credential as it is sent, without its id. -/
def payload (c : Credential) : Json :=
  .obj [("name", .str c.name), ("type", .str c.type), ("data", .obj c.data)]

def toJson (c : Credential) : Json :=
  .obj [("id", .ofString? c.id), ("name", .str c.name), ("type", .str c.type), ("data", .obj c.data)]

end Credential

end PromptGraph
