import V2Ray.Common.Errors

/-!
# Transport configuration messages

The generated code of `transport/internet/config.proto`: three enums with their number-to-name
and name-to-number maps and the `String` method that prints through `proto.EnumName`, four
messages with `Reset`, and their nil-safe getters, which all take the shape `getField`.

The gzipped file descriptor, the registration in `init` and the `XXX_` methods, which delegate
to the protobuf library, are not modelled.
-/

namespace V2Ray.Transport

/-- A Go `int32`. -/
abbrev Int32 := BitVec 32

/-- The library function `proto.EnumName`: the name of a known number, else the number in
decimal. -/
def enumName (names : List (Int32 × String)) (v : Int32) : String :=
  match names.lookup v with
  | some s => s
  | none => toString v.toInt

/-- The maps `X_name` and `X_value` generated for an enum. -/
structure EnumMaps where
  name : List (Int32 × String)
  value : List (String × Int32)

/-! ## The enums -/

/-- The enum `TransportProtocol`. -/
structure TransportProtocol where
  value : Int32
  deriving DecidableEq, Repr

/-- The maps `TransportProtocol_name` and `TransportProtocol_value`. -/
def TransportProtocol.maps : EnumMaps where
  name := [(0, "TCP"), (1, "UDP"), (2, "MKCP"), (3, "WebSocket"), (4, "HTTP"),
    (5, "DomainSocket")]
  value := [("TCP", 0), ("UDP", 1), ("MKCP", 2), ("WebSocket", 3), ("HTTP", 4),
    ("DomainSocket", 5)]

/-- The method `String` of `TransportProtocol`. -/
def TransportProtocol.string (x : TransportProtocol) : String :=
  enumName TransportProtocol.maps.name x.value

/-- The constant `TransportProtocol_TCP`. -/
def TransportProtocol.tcp : TransportProtocol := ⟨0⟩

/-- The enum `SocketConfig_TCPFastOpenState`. -/
structure TCPFastOpenState where
  value : Int32
  deriving DecidableEq, Repr

/-- The maps `SocketConfig_TCPFastOpenState_name` and `SocketConfig_TCPFastOpenState_value`. -/
def TCPFastOpenState.maps : EnumMaps where
  name := [(0, "AsIs"), (1, "Enable"), (2, "Disable")]
  value := [("AsIs", 0), ("Enable", 1), ("Disable", 2)]

/-- The method `String` of `SocketConfig_TCPFastOpenState`. -/
def TCPFastOpenState.string (x : TCPFastOpenState) : String :=
  enumName TCPFastOpenState.maps.name x.value

/-- The constant `SocketConfig_AsIs`. -/
def TCPFastOpenState.asIs : TCPFastOpenState := ⟨0⟩

/-- The enum `SocketConfig_TProxyMode`. -/
structure TProxyMode where
  value : Int32
  deriving DecidableEq, Repr

/-- The maps `SocketConfig_TProxyMode_name` and `SocketConfig_TProxyMode_value`. -/
def TProxyMode.maps : EnumMaps where
  name := [(0, "Off"), (1, "TProxy"), (2, "Redirect")]
  value := [("Off", 0), ("TProxy", 1), ("Redirect", 2)]

/-- The method `String` of `SocketConfig_TProxyMode`. -/
def TProxyMode.string (x : TProxyMode) : String :=
  enumName TProxyMode.maps.name x.value

/-- The constant `SocketConfig_Off`. -/
def TProxyMode.off : TProxyMode := ⟨0⟩

/-! ## Messages and their getters -/

/-- The shape of every generated getter `GetX`: the field of the message, or the field's zero
value on a nil message. -/
def getField {M α : Type} (field : M → α) (zero : α) : Option M → α
  | some m => field m
  | none => zero

/-- The message `serial.TypedMessage`: a message type name and its encoding. -/
structure TypedMessage where
  type : String
  value : List UInt8
  deriving DecidableEq, Repr

/-- The message `TransportConfig`. -/
structure TransportConfig where
  protocol : TransportProtocol := .tcp
  protocolName : String := ""
  settings : Option TypedMessage := none
  deriving DecidableEq, Repr

/-- The message `SocketConfig`. -/
structure SocketConfig where
  mark : Int32 := 0
  tfo : TCPFastOpenState := .asIs
  tproxy : TProxyMode := .off
  receiveOriginalDestAddress : Bool := false
  bindAddress : List UInt8 := []
  bindPort : UInt32 := 0
  tos : Int32 := 0
  deriving DecidableEq, Repr

/-- The message `StreamConfig`. -/
structure StreamConfig where
  protocol : TransportProtocol := .tcp
  protocolName : String := ""
  transportSettings : List TransportConfig := []
  securityType : String := ""
  securitySettings : List TypedMessage := []
  socketSettings : Option SocketConfig := none
  deriving DecidableEq, Repr

/-- The message `ProxyConfig`. -/
structure ProxyConfig where
  tag : String := ""
  deriving DecidableEq, Repr

/-- The method `Reset` of `TransportConfig`. -/
def TransportConfig.reset (_ : TransportConfig) : TransportConfig := {}

/-- The method `Reset` of `SocketConfig`. -/
def SocketConfig.reset (_ : SocketConfig) : SocketConfig := {}

/-- The method `Reset` of `StreamConfig`. -/
def StreamConfig.reset (_ : StreamConfig) : StreamConfig := {}

/-- The method `Reset` of `ProxyConfig`. -/
def ProxyConfig.reset (_ : ProxyConfig) : ProxyConfig := {}

/-- The method `GetProtocol` of `TransportConfig`. -/
def TransportConfig.getProtocol : Option TransportConfig → TransportProtocol :=
  getField TransportConfig.protocol .tcp

/-- The method `GetProtocolName` of `TransportConfig`. -/
def TransportConfig.getProtocolName : Option TransportConfig → String :=
  getField TransportConfig.protocolName ""

/-- The method `GetSettings` of `TransportConfig`. -/
def TransportConfig.getSettings : Option TransportConfig → Option TypedMessage :=
  getField TransportConfig.settings none

/-- The method `GetProtocol` of `StreamConfig`. -/
def StreamConfig.getProtocol : Option StreamConfig → TransportProtocol :=
  getField StreamConfig.protocol .tcp

/-- The method `GetProtocolName` of `StreamConfig`. -/
def StreamConfig.getProtocolName : Option StreamConfig → String :=
  getField StreamConfig.protocolName ""

/-- The method `GetTransportSettings` of `StreamConfig`. -/
def StreamConfig.getTransportSettings : Option StreamConfig → List TransportConfig :=
  getField StreamConfig.transportSettings []

/-- The method `GetSecurityType` of `StreamConfig`. -/
def StreamConfig.getSecurityType : Option StreamConfig → String :=
  getField StreamConfig.securityType ""

/-- The method `GetSecuritySettings` of `StreamConfig`. -/
def StreamConfig.getSecuritySettings : Option StreamConfig → List TypedMessage :=
  getField StreamConfig.securitySettings []

/-- The method `GetSocketSettings` of `StreamConfig`. -/
def StreamConfig.getSocketSettings : Option StreamConfig → Option SocketConfig :=
  getField StreamConfig.socketSettings none

/-- The method `GetTag` of `ProxyConfig`. -/
def ProxyConfig.getTag : Option ProxyConfig → String :=
  getField ProxyConfig.tag ""

/-- The method `GetMark` of `SocketConfig`. -/
def SocketConfig.getMark : Option SocketConfig → Int32 :=
  getField SocketConfig.mark 0

/-- The method `GetTfo` of `SocketConfig`. -/
def SocketConfig.getTfo : Option SocketConfig → TCPFastOpenState :=
  getField SocketConfig.tfo .asIs

/-- The method `GetTproxy` of `SocketConfig`. -/
def SocketConfig.getTproxy : Option SocketConfig → TProxyMode :=
  getField SocketConfig.tproxy .off

/-- The method `GetReceiveOriginalDestAddress` of `SocketConfig`. -/
def SocketConfig.getReceiveOriginalDestAddress : Option SocketConfig → Bool :=
  getField SocketConfig.receiveOriginalDestAddress false

/-- The method `GetBindAddress` of `SocketConfig`. -/
def SocketConfig.getBindAddress : Option SocketConfig → List UInt8 :=
  getField SocketConfig.bindAddress []

/-- The method `GetBindPort` of `SocketConfig`. -/
def SocketConfig.getBindPort : Option SocketConfig → UInt32 :=
  getField SocketConfig.bindPort 0

/-- The method `GetTos` of `SocketConfig`. -/
def SocketConfig.getTos : Option SocketConfig → Int32 :=
  getField SocketConfig.tos 0

end V2Ray.Transport
