import Siwa.PyStr
import Siwa.Message
import Siwa.Codec
import Siwa.DateTime
import Siwa.Verify
import Siwa.Checks
import Siwa.Collaborators
import Siwa.Response
import Siwa.Signing
import Siwa.ParseErrors
import Siwa.Results
import Siwa.Replay
import Siwa.Window
import Siwa.Blocks
import Siwa.Canonical
import Siwa.Nonce
