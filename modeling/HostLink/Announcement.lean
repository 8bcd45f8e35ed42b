import HostLink.Cell.Reader
import HostLink.Cell.Writer
import HostLink.Notice
import HostLink.Settings.Session

/-!
# HostLink.Announcement

What the host tells a runtime that has just connected: the versions it speaks and the directory it
runs from. A long directory is cut at a character, so that the bytes stay UTF-8.
-/

namespace HostLink

/-- The announcement of the host. -/
structure Announcement where
  protocolVersion : UInt32
  buildVersion : UInt32
  workingDir : String
  deriving DecidableEq, Repr

namespace Announcement

/-- The most bytes of the directory that are sent. -/
def maxPath : Nat := 260

def sentDir (a : Announcement) : Bytes :=
  let dir := Utf8.encode a.workingDir
  dir.take (Utf8.lastBoundary dir (min dir.length maxPath))

/-- The announcement's payload: both versions, then the directory without a NUL. -/
def encode (a : Announcement) : Except Fault Bytes :=
  match (Cell.Writer.empty (8 + maxPath)).putAll
      [.ok (.u32 a.protocolVersion), .ok (.u32 a.buildVersion), .ok (.raw a.sentDir)] with
  | (.ok (), w) => .ok w.bytes
  | (.error e, _) => .error e

def decode (payload : Bytes) : Except Fault Announcement :=
  match Cell.Read.u32 payload with
  | .error e => .error e
  | .ok (protocol, rest) =>
    match Cell.Read.u32 rest with
    | .error e => .error e
    | .ok (build, dir) => .ok ⟨protocol, build, Utf8.lossy dir⟩

/-- The announcement that the settings call for. -/
def ofSettings (settings : SessionSettings) : Announcement :=
  ⟨settings.protocolVersion, settings.buildVersion,
    settings.workingDir.getD settings.processDir.announced⟩

/-- What is noted when the announcement is made. -/
def notices (settings : SessionSettings) : List Notice :=
  match settings.workingDir, settings.processDir with
  | none, .unread reason => [.directoryUnread reason]
  | _, _ => []

end Announcement

end HostLink
