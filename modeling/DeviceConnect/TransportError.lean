import DeviceConnect.Protocol

/-! How a transport operation or a session operation fails. -/
namespace DeviceConnect

inductive IoKind where
  | brokenPipe
  | timedOut
  | permissionDenied
  | notFound
  | interrupted
  | other
  deriving DecidableEq

structure IoError where
  kind : IoKind
  message : String
  deriving DecidableEq

inductive TransportError where
  | openFailed (address message : String)
  | timeout
  | io (cause : IoError)
  | frame (message : String)
  | unexpectedResponse (shown : String)
  | unsupportedProtocol (found expected : UInt16)
  | legacyNotAllowed (found : UInt16)
  | refused (status : AckStatus)
  deriving DecidableEq

def TransportError.message : TransportError → String
  | openFailed address message => "failed to open " ++ address ++ ": " ++ message
  | timeout => "timed out waiting for response"
  | io cause => "I/O error: " ++ cause.message
  | frame message => "malformed frame: " ++ message
  | unexpectedResponse shown => "unexpected response: " ++ shown
  | unsupportedProtocol found expected =>
    "device speaks protocol v" ++ toString found ++ ", expected v" ++ toString expected
  | legacyNotAllowed found =>
    "device speaks legacy protocol v" ++ toString found ++ " (legacy protocol not allowed)"
  | refused status => "device refused command: " ++ status.name

inductive SessionError where
  | notConnected
  | transport (cause : TransportError)
  deriving DecidableEq

def SessionError.message : SessionError → String
  | notConnected => "no device connected"
  | transport cause => cause.message

end DeviceConnect
