import RustGameserver.GameServer.Session
import RustGameserver.Session.Logouts

/-!
Contract: sessions whose kick token is cancelled come to an end.

Owns: how much such a session still does, in every run of a server, that nothing else has
to move for its end, and what `record_logout` waits for after it.

Does not own: who cancels the token.
-/

namespace RustGameserver.Servers

open RustGameserver.Foundation
open RustGameserver.Net
open RustGameserver.Proto
open RustGameserver.Session

variable {Fields Work Reply Inner : Type} {service : Service Fields Work Reply Inner}

end RustGameserver.Servers
