import FabricCapability.Ports.Schema

/-!
# Values as text

Translation of the renderers of `src/value.cpp` and of `EnumCodeText` of `src/schema.cpp`.
Explanations and requirement evaluations show values in this form.
-/

namespace FabricCapability.Ports

/-! ## Enumeration codes -/

def codeNames (domain : String) (names : List String) : EnumDomainId × List Bytes :=
  (.parseOrUnset (txt domain), names.map txt)

/-- The names of the codes of each builtin domain, which are counted from zero. -/
def builtinEnumCodeNames : List (EnumDomainId × List Bytes) :=
  [codeNames "fabric.port.fec_mode"
     ["none", "rs", "base-r", "rs-544", "rs-108", "interleaved-rs"],
   codeNames "fabric.port.media_type"
     ["copper", "fiber", "dac", "aoc", "backplane", "virtual", "wireless"],
   codeNames "fabric.optics.transceiver_type"
     ["sfp", "sfp28", "sfp-dd", "qsfp", "qsfp28", "qsfp56", "qsfp-dd", "osfp"],
   codeNames "fabric.optics.modulation" ["nrz", "pam4"],
   codeNames "fabric.optics.connector_type" ["lc", "sc", "mpo", "rj45", "dac-plug"],
   codeNames "fabric.optics.fec_mode" ["none", "rs", "base-r"],
   codeNames "fabric.optics.dom_measurement"
     ["temperature", "supply-voltage", "tx-bias", "tx-power", "rx-power", "laser-temperature"],
   codeNames "fabric.queue.scheduler_class"
     ["strict-priority", "weighted-round-robin", "deficit-round-robin",
      "weighted-fair-queueing", "hierarchical"],
   codeNames "fabric.buffer.threshold_mechanism"
     ["static", "dynamic", "alpha-based", "per-port-shared", "headroom", "wred"],
   codeNames "fabric.telemetry.family"
     ["port-counters", "queue-counters", "ecn-counters", "pfc-counters", "loss-counters",
      "buffer-occupancy", "latency", "flow-telemetry", "optical-diagnostics",
      "transceiver-metrics", "programmable-export"],
   codeNames "fabric.offload.programmable_class"
     ["packet-parsing", "match-action", "metering", "stateful-processing", "inline-tls",
      "load-balancing"],
   codeNames "fabric.offload.virtualization_class"
     ["virtio", "sriov", "representor", "vxlan-offload", "geneve-offload",
      "connection-tracking"],
   codeNames "fabric.offload.tunnel_class" ["vxlan", "geneve", "gre", "ip-in-ip", "mpls-over-udp"],
   codeNames "fabric.rdma.transport" ["roce-v1", "roce-v2", "infiniband", "iwarp"],
   codeNames "fabric.congestion.ecn_mode" ["ect0", "ect1", "ce-marking", "dctcp", "l4s"],
   codeNames "fabric.qos.trust_mode" ["untrusted", "cos", "dscp", "port"],
   codeNames "fabric.tunneling.encapsulation"
     ["vxlan", "geneve", "gre", "ip-in-ip", "mpls", "srv6"],
   codeNames "fabric.virtualization.isolation_feature"
     ["vlan-isolation", "vrf-isolation", "namespace-isolation", "pci-function-isolation",
      "rate-isolation"],
   codeNames "fabric.timestamping.clock_source"
     ["local-free-running", "ptp", "ntp", "gps", "gnss", "atomic", "syncE"],
   codeNames "fabric.timestamping.precision_class"
     ["sub-microsecond", "sub-100ns", "sub-10ns", "sub-ns"],
   codeNames "fabric.timestamping.ptp_profile"
     ["default", "telecom-g8275-1", "power-c37-238", "enterprise", "smpte"],
   codeNames "fabric.compatibility.class"
     ["fabric-os-1", "generic-ethernet", "rdma-capable", "programmable-datapath",
      "optical-facing"]]

/-- The domain and the number of a code that has no name. -/
def enumValueText (domain : EnumDomainId) (code : UInt32) : Bytes :=
  domain.value ++ txt "#" ++ decimal code.toNat

/-- `EnumCodeText`. -/
def enumCodeText (domain : EnumDomainId) (code : UInt32) : Bytes :=
  match builtinEnumCodeNames.find? fun entry => entry.1 = domain with
  | none => enumValueText domain code
  | some entry => (entry.2[code.toNat]?).getD (enumValueText domain code)

/-! ## Values -/

def boolText (value : Bool) : Bytes := if value then txt "true" else txt "false"

/-- `std::to_string` of a signed integer. -/
def integerText (value : Int64) : Bytes := txt (toString value.toInt)

/-- Parts in braces, after each other with a separator. -/
def bracedText (separator : String) (parts : List Bytes) : Bytes :=
  txt "\x7b" ++ (txt separator).intercalate parts ++ txt "\x7d"

def ScalarValue.toText : ScalarValue → Bytes
  | .boolean value => boolText value
  | .signed value => integerText value
  | .unsigned value => decimal value.toNat
  | .enumeration value _ => enumValueText value.domain value.code
  | .text value _ => value

def TupleValue.toText (tuple : TupleValue) : Bytes :=
  txt "(" ++ (txt ", ").intercalate (tuple.elements.map ScalarValue.toText) ++ txt ")"

/-- The bits that are set, from the lowest. -/
def BitSet.bits (set : BitSet) : List Nat :=
  (List.range set.bitCount.toNat).filter fun bit =>
    (set.words.getD (bit / 64) 0 >>> UInt64.ofNat (bit % 64)) &&& 1 == 1

def VersionInterval.toText (interval : VersionInterval) : Bytes :=
  (if interval.minimumInclusive then txt "[" else txt "(") ++ interval.minimum.toText ++
    txt ", " ++ interval.maximum.toText ++
    if interval.maximumInclusive then txt "]" else txt ")"

def ValueStorage.toText : ValueStorage → Bytes
  | absent => txt "absent"
  | boolean value => boolText value
  | integer value => integerText value
  | quantity value => quantityToText value.value value.unit
  | enumeration value => enumValueText value.domain value.code
  | bitSet set => bracedText "," (set.bits.map decimal)
  | numericSet set => bracedText ", " (set.values.map (quantityToText · set.unit))
  | numericRange range => numericRangeText range
  | versionInterval interval => interval.toText
  | protocolSet set => bracedText ", " (set.protocols.map protocolName)
  | tuple value => value.toText
  | tupleSet set => bracedText ", " (set.tuples.map TupleValue.toText)
  | record value => bracedText ", " (value.fields.map fun field =>
      field.name ++ txt "=" ++ field.value.toText)
  | opaquePayload payload =>
      txt "<opaque encoding=" ++ payload.encoding ++ txt " bytes=" ++
        decimal payload.bytes.length ++ txt ">"
  | enumSet set => bracedText ", " (set.codes.map (enumCodeText set.domain))

/-- `CapabilityValue::ToText`. -/
def CapabilityValue.toText (value : CapabilityValue) : Bytes := value.storage.toText

end FabricCapability.Ports
