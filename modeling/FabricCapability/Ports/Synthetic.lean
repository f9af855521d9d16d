import FabricCapability.Ports.ValueFactories
import FabricCapability.Ports.CanonicalSchema

/-!
# Synthetic fabrics

Translation of `include/fabric/capability/synthetic.hpp` and `src/synthetic.cpp`.  A profile
is the list of claims of one device class; the calls of the source that append to it are
`add…` here, each the list of what it appends.  A value that its factory refuses is left out.

`BuildSyntheticFabric` is a loop over the devices that appends to the list of publications.
The conflicting source is copied from the primary publication just appended, the changing
source from the front of the list.
-/

namespace FabricCapability.Ports

/-! ## Device classes -/

inductive SyntheticDeviceClass where
  | leafSwitch | spineSwitch | hostNic | smartNic | dpu | router | opticalFacingPort
  | highSpeedEthernetPort | rdmaCapableDevice | telemetryRichDevice | reducedCapabilityDevice
  deriving DecidableEq, Repr

structure DeviceClassEntry where
  name : Bytes
  kind : FabricEntityKind
  token : Bytes

/-- The table `kDeviceClasses`, which has an entry for every class. -/
def entryFor : SyntheticDeviceClass → DeviceClassEntry
  | .leafSwitch => ⟨txt "leaf-switch", .switch, txt "leaf"⟩
  | .spineSwitch => ⟨txt "spine-switch", .switch, txt "spine"⟩
  | .hostNic => ⟨txt "host-nic", .nic, txt "nic"⟩
  | .smartNic => ⟨txt "smartnic", .smartNic, txt "smartnic"⟩
  | .dpu => ⟨txt "dpu", .dpu, txt "dpu"⟩
  | .router => ⟨txt "router", .router, txt "router"⟩
  | .opticalFacingPort => ⟨txt "optical-facing-port", .port, txt "optics"⟩
  | .highSpeedEthernetPort => ⟨txt "high-speed-ethernet-port", .port, txt "hsp"⟩
  | .rdmaCapableDevice => ⟨txt "rdma-capable-device", .nic, txt "rdma"⟩
  | .telemetryRichDevice => ⟨txt "telemetry-rich-device", .switch, txt "telemetry"⟩
  | .reducedCapabilityDevice => ⟨txt "reduced-capability-device", .device, txt "reduced"⟩

/-- `SyntheticDeviceClasses`. -/
def syntheticDeviceClasses : List SyntheticDeviceClass :=
  [.leafSwitch, .spineSwitch, .hostNic, .smartNic, .dpu, .router, .opticalFacingPort,
    .highSpeedEthernetPort, .rdmaCapableDevice, .telemetryRichDevice, .reducedCapabilityDevice]

theorem mem_syntheticDeviceClasses (deviceClass : SyntheticDeviceClass) :
    deviceClass ∈ syntheticDeviceClasses := by
  cases deviceClass <;> decide

def kGigabit : UInt64 := 1000000000

/-! ## Claims -/

/-- `MakeClaim`. -/
def makeClaim (id : String) : CapabilityClaim :=
  { capability := canonicalId id
    state := .supported
    provenance := .syntheticTestBackend
    sourceClass := .syntheticBackend
    durability := .durable
    coverage := .fullEnumeration }

/-- The claim of a value, unless its factory refused it. -/
def addBuilt (id : String) : Outcome CapabilityValue → List CapabilityClaim
  | .ok value => [{ makeClaim id with value }]
  | .error _ => []

def addBool (id : String) (value : Bool) : List CapabilityClaim :=
  [{ makeClaim id with value := .boolean value }]

def addQuantity (id : String) (unit : QuantityUnit) (value : UInt64) : List CapabilityClaim :=
  addBuilt id (CapabilityValue.quantityValue value unit)

def addNumericSet (id : String) (unit : QuantityUnit) (values : List UInt64) :
    List CapabilityClaim :=
  addBuilt id (CapabilityValue.numericSetValue unit values)

def addRange (id : String) (unit : QuantityUnit) (minimum maximum : UInt64) :
    List CapabilityClaim :=
  addBuilt id (CapabilityValue.numericRangeValue unit minimum maximum)

def addEnumSet (id domain : String) (codes : List UInt32) : List CapabilityClaim :=
  match (TokenId.parse (txt domain) : Outcome EnumDomainId) with
  | .ok domain => addBuilt id (CapabilityValue.enumerationSetValue domain codes)
  | .error _ => []

/-- The protocol families that the profiles name. -/
inductive ProfileProtocol where
  | ethernet | ipv4 | ipv6 | vlan | mpls | vxlan | geneve | srv6 | lacp

def ProfileProtocol.id : ProfileProtocol → ProtocolId
  | ethernet => ⟨1⟩
  | ipv4 => ⟨2⟩
  | ipv6 => ⟨3⟩
  | vlan => ⟨4⟩
  | mpls => ⟨5⟩
  | vxlan => ⟨6⟩
  | geneve => ⟨7⟩
  | srv6 => ⟨8⟩
  | lacp => ⟨19⟩

def addProtocolSet (id : String) (protocols : List ProfileProtocol) : List CapabilityClaim :=
  addBuilt id (CapabilityValue.protocolSetValue (protocols.map ProfileProtocol.id))

/-! ## Profiles -/

def leafSwitchClaims (queueOffset : UInt64) : List CapabilityClaim :=
  List.flatten [
    addNumericSet "fabric.port.supported_speeds" .bitsPerSecond [100 * kGigabit, 400 * kGigabit],
    addNumericSet "fabric.port.supported_lane_counts" .count [4, 8],
    addNumericSet "fabric.port.lane_rates" .bitsPerSecond
      [25 * kGigabit, 50 * kGigabit, 100 * kGigabit],
    addRange "fabric.port.mtu_range" .bytes 1500 9216,
    addQuantity "fabric.port.max_frame_size" .bytes 9216,
    addEnumSet "fabric.port.supported_fec_modes" "fabric.port.fec_mode" [1, 2],
    addEnumSet "fabric.port.media_types" "fabric.port.media_type" [0, 1, 2],
    addQuantity "fabric.port.max_breakout_children" .count 4,
    addProtocolSet "fabric.protocol.families"
      [.ethernet, .ipv4, .ipv6, .vlan, .vxlan, .geneve, .mpls, .lacp],
    addBool "fabric.forwarding.l2_forwarding" true,
    addBool "fabric.forwarding.l3_forwarding" true,
    addBool "fabric.forwarding.ecmp_supported" true,
    addBool "fabric.forwarding.weighted_ecmp_supported" true,
    addQuantity "fabric.forwarding.max_ecmp_width" .count 64,
    addBool "fabric.forwarding.multicast_supported" true,
    addBool "fabric.forwarding.acl_tables_supported" true,
    addQuantity "fabric.forwarding.max_acl_entries" .count 4096,
    addQuantity "fabric.forwarding.max_routes_ipv4" .count 65536,
    addQuantity "fabric.queue.priority_count" .count 8,
    addQuantity "fabric.queue.traffic_class_count" .count (8 + queueOffset),
    addEnumSet "fabric.queue.scheduler_classes" "fabric.queue.scheduler_class" [0, 1, 3],
    addQuantity "fabric.buffer-exposure.total_packet_buffer" .bytes ((64 : UInt64) <<< 20),
    addQuantity "fabric.buffer-exposure.per_port_buffer_ceiling" .bytes ((8 : UInt64) <<< 20),
    addBool "fabric.buffer-exposure.shared_buffer_supported" true,
    addEnumSet "fabric.buffer-exposure.threshold_mechanisms" "fabric.buffer.threshold_mechanism"
      [1, 2, 5],
    addEnumSet "fabric.telemetry.families" "fabric.telemetry.family" [0, 1, 2, 3, 5],
    addBool "fabric.congestion.ecn_supported" true,
    addBool "fabric.congestion.pfc_supported" true,
    addBool "fabric.congestion.pause_supported" true,
    addBool "fabric.qos.shaper_supported" true,
    addBool "fabric.qos.policer_supported" true,
    addBool "fabric.qos.strict_priority_supported" true,
    addBool "fabric.qos.weighted_scheduling_supported" true,
    addEnumSet "fabric.tunneling.encapsulations" "fabric.tunneling.encapsulation" [0, 1],
    addQuantity "fabric.tunneling.max_tunnel_endpoints" .count 16000,
    addBool "fabric.timestamping.hardware_timestamp_supported" true,
    addEnumSet "fabric.optics.transceiver_types" "fabric.optics.transceiver_type" [4, 6],
    addNumericSet "fabric.optics.supported_rates" .bitsPerSecond
      [100 * kGigabit, 400 * kGigabit]]

def spineSwitchClaims (queueOffset : UInt64) : List CapabilityClaim :=
  List.flatten [
    addNumericSet "fabric.port.supported_speeds" .bitsPerSecond [400 * kGigabit, 800 * kGigabit],
    addNumericSet "fabric.port.supported_lane_counts" .count [8, 16],
    addNumericSet "fabric.port.lane_rates" .bitsPerSecond [50 * kGigabit, 100 * kGigabit],
    addRange "fabric.port.mtu_range" .bytes 1500 9216,
    addEnumSet "fabric.port.supported_fec_modes" "fabric.port.fec_mode" [1, 3],
    addBool "fabric.forwarding.l2_forwarding" true,
    addBool "fabric.forwarding.l3_forwarding" true,
    addBool "fabric.forwarding.ecmp_supported" true,
    addBool "fabric.forwarding.weighted_ecmp_supported" true,
    addQuantity "fabric.forwarding.max_ecmp_width" .count 256,
    addQuantity "fabric.forwarding.max_routes_ipv4" .count 1000000,
    addQuantity "fabric.forwarding.max_routes_ipv6" .count 500000,
    addBool "fabric.forwarding.segment_routing_supported" true,
    addBool "fabric.forwarding.programmable_forwarding_supported" true,
    addQuantity "fabric.queue.traffic_class_count" .count (8 + queueOffset),
    addEnumSet "fabric.queue.scheduler_classes" "fabric.queue.scheduler_class" [0, 1, 3, 4],
    addQuantity "fabric.buffer-exposure.total_packet_buffer" .bytes ((256 : UInt64) <<< 20),
    addQuantity "fabric.buffer-exposure.per_port_buffer_ceiling" .bytes ((16 : UInt64) <<< 20),
    addBool "fabric.buffer-exposure.shared_buffer_supported" true,
    addEnumSet "fabric.telemetry.families" "fabric.telemetry.family" [0, 1, 2, 3, 5, 6, 7],
    addBool "fabric.congestion.ecn_supported" true,
    addBool "fabric.congestion.pfc_supported" true,
    addBool "fabric.congestion.adaptive_routing_signaling_supported" true,
    addBool "fabric.timestamping.hardware_timestamp_supported" true,
    addEnumSet "fabric.optics.transceiver_types" "fabric.optics.transceiver_type" [6, 7],
    addEnumSet "fabric.optics.modulation_formats" "fabric.optics.modulation" [0, 1],
    addNumericSet "fabric.optics.supported_rates" .bitsPerSecond
      [400 * kGigabit, 800 * kGigabit]]

def hostNicClaims (queueOffset : UInt64) : List CapabilityClaim :=
  List.flatten [
    addNumericSet "fabric.port.supported_speeds" .bitsPerSecond
      [kGigabit, 10 * kGigabit, 25 * kGigabit],
    addRange "fabric.port.mtu_range" .bytes 1500 9000,
    addQuantity "fabric.queue.max_rx_queues" .count (16 + queueOffset),
    addQuantity "fabric.queue.max_tx_queues" .count (16 + queueOffset),
    addQuantity "fabric.queue.priority_count" .count 8,
    addBool "fabric.queue.per_queue_telemetry_supported" true,
    addBool "fabric.offload.checksum_rx" true,
    addBool "fabric.offload.checksum_tx" true,
    addBool "fabric.offload.segmentation_offload" true,
    addBool "fabric.offload.receive_side_scaling" true,
    addQuantity "fabric.offload.max_rss_queues" .count 16,
    addBool "fabric.offload.flow_steering" true,
    addBool "fabric.offload.rdma" false,
    addBool "fabric.virtualization.sriov_supported" true,
    addQuantity "fabric.virtualization.max_virtual_functions" .count 8,
    addBool "fabric.virtualization.virtual_ports_supported" true,
    addEnumSet "fabric.telemetry.families" "fabric.telemetry.family" [0, 1],
    addBool "fabric.timestamping.software_timestamp_supported" true,
    addBool "fabric.timestamping.hardware_timestamp_supported" false,
    addProtocolSet "fabric.protocol.families" [.ethernet, .ipv4, .ipv6, .vlan],
    addQuantity "fabric.buffer-exposure.total_packet_buffer" .bytes ((2 : UInt64) <<< 20)]

def smartNicClaims (queueOffset : UInt64) : List CapabilityClaim :=
  hostNicClaims queueOffset ++ List.flatten [
    addBool "fabric.offload.rdma" true,
    addBool "fabric.offload.crypto" true,
    addBool "fabric.offload.compression" true,
    addEnumSet "fabric.offload.programmable_offload_classes" "fabric.offload.programmable_class"
      [0, 1, 2, 3, 5],
    addEnumSet "fabric.offload.virtualization_offloads" "fabric.offload.virtualization_class"
      [0, 1, 2, 3, 4, 5],
    addEnumSet "fabric.offload.tunnel_offloads" "fabric.offload.tunnel_class" [0, 1, 2],
    addQuantity "fabric.virtualization.max_virtual_functions" .count 64,
    addBool "fabric.virtualization.representors_supported" true,
    addBool "fabric.virtualization.partitioning_supported" true,
    addBool "fabric.timestamping.hardware_timestamp_supported" true,
    addEnumSet "fabric.telemetry.families" "fabric.telemetry.family" [0, 1, 2, 3, 5, 7],
    addNumericSet "fabric.port.supported_speeds" .bitsPerSecond
      [10 * kGigabit, 25 * kGigabit, 100 * kGigabit]]

def dpuClaims (queueOffset : UInt64) : List CapabilityClaim :=
  smartNicClaims queueOffset ++ List.flatten [
    addEnumSet "fabric.rdma.transport_families" "fabric.rdma.transport" [0, 1],
    addQuantity "fabric.rdma.max_queue_pairs" .count 8192,
    addBool "fabric.rdma.atomic_operations_supported" true,
    addBool "fabric.rdma.reliable_connection_supported" true,
    addQuantity "fabric.rdma.max_message_size" .bytes ((1 : UInt64) <<< 30),
    addBool "fabric.offload.accelerator_adjacent_network" true,
    addEnumSet "fabric.telemetry.families" "fabric.telemetry.family"
      [0, 1, 2, 3, 4, 5, 6, 7, 10],
    addEnumSet "fabric.timestamping.clock_sources" "fabric.timestamping.clock_source" [0, 1, 3]]

def routerClaims (queueOffset : UInt64) : List CapabilityClaim :=
  List.flatten [
    addBool "fabric.forwarding.l2_forwarding" true,
    addBool "fabric.forwarding.l3_forwarding" true,
    addBool "fabric.forwarding.ecmp_supported" true,
    addBool "fabric.forwarding.weighted_ecmp_supported" true,
    addQuantity "fabric.forwarding.max_ecmp_width" .count 128,
    addBool "fabric.forwarding.policy_routing_supported" true,
    addBool "fabric.forwarding.multicast_supported" true,
    addBool "fabric.forwarding.segment_routing_supported" true,
    addQuantity "fabric.forwarding.max_routes_ipv4" .count 2000000,
    addQuantity "fabric.forwarding.max_routes_ipv6" .count 1000000,
    addQuantity "fabric.forwarding.max_host_entries" .count 100000,
    addQuantity "fabric.queue.priority_count" .count (8 + queueOffset),
    addQuantity "fabric.qos.priority_count" .count 8,
    addBool "fabric.qos.shaper_supported" true,
    addBool "fabric.qos.policer_supported" true,
    addBool "fabric.qos.marking_supported" true,
    addEnumSet "fabric.qos.trust_modes" "fabric.qos.trust_mode" [0, 1, 2],
    addProtocolSet "fabric.protocol.families"
      [.ethernet, .ipv4, .ipv6, .vlan, .mpls, .srv6, .lacp],
    addEnumSet "fabric.tunneling.encapsulations" "fabric.tunneling.encapsulation" [0, 1, 4, 5],
    addEnumSet "fabric.telemetry.families" "fabric.telemetry.family" [0, 4, 7],
    addBool "fabric.congestion.ecn_supported" true,
    addBool "fabric.congestion.pfc_supported" true]

def opticalPortClaims (queueOffset : UInt64) : List CapabilityClaim :=
  List.flatten [
    addEnumSet "fabric.optics.transceiver_types" "fabric.optics.transceiver_type" [1, 2, 6, 7],
    addNumericSet "fabric.optics.supported_rates" .bitsPerSecond
      [100 * kGigabit, 200 * kGigabit, 400 * kGigabit],
    addNumericSet "fabric.optics.lane_counts" .count [4, 8],
    addEnumSet "fabric.optics.modulation_formats" "fabric.optics.modulation" [0, 1],
    addEnumSet "fabric.optics.fec_modes" "fabric.optics.fec_mode" [1, 2],
    addNumericSet "fabric.optics.wavelengths" .nanometers [1310, 1550],
    addBool "fabric.optics.diagnostic_monitoring_supported" true,
    addEnumSet "fabric.optics.dom_measurements" "fabric.optics.dom_measurement" [0, 1, 2, 3, 4],
    addNumericSet "fabric.port.supported_speeds" .bitsPerSecond [100 * kGigabit, 400 * kGigabit],
    addEnumSet "fabric.port.media_types" "fabric.port.media_type" [1, 3],
    addQuantity "fabric.port.max_breakout_children" .count 8,
    addEnumSet "fabric.telemetry.families" "fabric.telemetry.family" [0, 8, 9],
    addQuantity "fabric.queue.priority_count" .count (8 + queueOffset)]

def highSpeedPortClaims (queueOffset : UInt64) : List CapabilityClaim :=
  List.flatten [
    addNumericSet "fabric.port.supported_speeds" .bitsPerSecond
      [100 * kGigabit, 200 * kGigabit, 400 * kGigabit, 800 * kGigabit],
    addNumericSet "fabric.port.supported_lane_counts" .count [1, 2, 4, 8],
    addNumericSet "fabric.port.lane_rates" .bitsPerSecond
      [25 * kGigabit, 50 * kGigabit, 100 * kGigabit],
    addRange "fabric.port.mtu_range" .bytes 1500 9216,
    addQuantity "fabric.port.max_frame_size" .bytes 9216,
    addEnumSet "fabric.port.supported_fec_modes" "fabric.port.fec_mode" [1, 2, 3, 4],
    addEnumSet "fabric.port.media_types" "fabric.port.media_type" [1, 2, 3],
    addEnumSet "fabric.port.connector_types" "fabric.optics.connector_type" [0, 2],
    addQuantity "fabric.port.max_breakout_children" .count 8,
    addQuantity "fabric.queue.priority_count" .count 8,
    addQuantity "fabric.queue.traffic_class_count" .count (8 + queueOffset),
    addBool "fabric.forwarding.l2_forwarding" true,
    addBool "fabric.forwarding.l3_forwarding" true,
    addBool "fabric.timestamping.hardware_timestamp_supported" true,
    addEnumSet "fabric.telemetry.families" "fabric.telemetry.family" [0, 1, 2, 3, 5]]

def rdmaClaims (queueOffset : UInt64) : List CapabilityClaim :=
  hostNicClaims queueOffset ++ List.flatten [
    addEnumSet "fabric.rdma.transport_families" "fabric.rdma.transport" [0, 1, 3],
    addQuantity "fabric.rdma.max_queue_pairs" .count 4096,
    addBool "fabric.rdma.atomic_operations_supported" true,
    addBool "fabric.rdma.reliable_connection_supported" true,
    addBool "fabric.rdma.memory_window_supported" true,
    addQuantity "fabric.rdma.max_message_size" .bytes ((1 : UInt64) <<< 30),
    addBool "fabric.offload.rdma" true,
    addEnumSet "fabric.telemetry.families" "fabric.telemetry.family" [0, 1, 2]]

def telemetryRichClaims (queueOffset : UInt64) : List CapabilityClaim :=
  spineSwitchClaims queueOffset ++ List.flatten [
    addEnumSet "fabric.telemetry.families" "fabric.telemetry.family"
      [0, 1, 2, 3, 4, 5, 6, 7, 8, 9, 10],
    addQuantity "fabric.telemetry.max_flow_export_entries" .count 65536,
    addBool "fabric.telemetry.histogram_supported" true,
    addBool "fabric.timestamping.hardware_timestamp_supported" true,
    addBool "fabric.timestamping.rx_timestamp_supported" true,
    addBool "fabric.timestamping.tx_timestamp_supported" true,
    addEnumSet "fabric.timestamping.clock_sources" "fabric.timestamping.clock_source"
      [0, 1, 3, 4],
    addEnumSet "fabric.timestamping.ptp_profiles" "fabric.timestamping.ptp_profile" [0, 1]]

def reducedClaims (queueOffset : UInt64) : List CapabilityClaim :=
  List.flatten [
    addNumericSet "fabric.port.supported_speeds" .bitsPerSecond [kGigabit],
    addRange "fabric.port.mtu_range" .bytes 1500 1500,
    addQuantity "fabric.queue.max_rx_queues" .count (4 + queueOffset),
    addBool "fabric.offload.checksum_rx" true,
    addEnumSet "fabric.telemetry.families" "fabric.telemetry.family" [0]]

/-- `ClaimsFor`. -/
def claimsFor (deviceClass : SyntheticDeviceClass) (queueOffset : UInt64) :
    List CapabilityClaim :=
  match deviceClass with
  | .leafSwitch => leafSwitchClaims queueOffset
  | .spineSwitch => spineSwitchClaims queueOffset
  | .hostNic => hostNicClaims queueOffset
  | .smartNic => smartNicClaims queueOffset
  | .dpu => dpuClaims queueOffset
  | .router => routerClaims queueOffset
  | .opticalFacingPort => opticalPortClaims queueOffset
  | .highSpeedEthernetPort => highSpeedPortClaims queueOffset
  | .rdmaCapableDevice => rdmaClaims queueOffset
  | .telemetryRichDevice => telemetryRichClaims queueOffset
  | .reducedCapabilityDevice => reducedClaims queueOffset

/-! ## Devices -/

/-- `SourceName`. -/
def sourceName (entry : DeviceClassEntry) (flavour : String) : Bytes :=
  txt "synthetic-source-" ++ entry.token ++ txt "-" ++ txt flavour

structure SyntheticOptions where
  deviceCount : UInt64 := 1
  seed : UInt64 := 1
  firstGeneration : UInt64 := 1
  includeConflictingSource : Bool := false
  includeChangingSource : Bool := false
  nameOffset : UInt64 := 0

structure SyntheticPublication where
  entity : EntityId
  entityGeneration : EntityGeneration
  source : SourceId
  publisher : PublisherId
  scope : AuthorityScopeId
  provenance : ProvenanceClass
  sourceClass : EvidenceSourceClass
  coverage : Coverage
  claims : List CapabilityClaim
  reason : ReasonToken
  description : Bytes
  deriving DecidableEq

/-- The number of a device, in four digits at least. -/
def deviceDigits (index : UInt64) : Bytes :=
  let digits := decimal index.toNat
  List.replicate (4 - digits.length) 0x30 ++ digits

/-- `MakeSyntheticEntity`. -/
def makeSyntheticEntity (deviceClass : SyntheticDeviceClass) (index : UInt64) : EntityId :=
  let entry := entryFor deviceClass
  let name := txt "syn-" ++ entry.token ++ txt "-" ++ deviceDigits index
  (EntityId.create entry.kind name).toOption.getD .unset

/-- The generator `next` of a device: one round of shifts. -/
def nextState (state : UInt64) : UInt64 :=
  let state := state ^^^ (state <<< 13)
  let state := state ^^^ (state >>> 7)
  state ^^^ (state <<< 17)

def queueOffsetOf (seed nameIndex : UInt64) : UInt64 :=
  nextState (seed * 6364136223846793005 + nameIndex * 1442695040888963407) % 5

/-! ## The publications of a device -/

/-- The primary publication of a device. -/
def primaryPublication (deviceClass : SyntheticDeviceClass) (options : SyntheticOptions)
    (nameIndex : UInt64) : SyntheticPublication :=
  let entry := entryFor deviceClass
  { entity := makeSyntheticEntity deviceClass nameIndex
    entityGeneration := options.firstGeneration
    source := .parseOrUnset (sourceName entry "primary")
    publisher := .parseOrUnset (txt "synthetic-publisher")
    scope := .parseOrUnset (txt "synthetic-scope")
    provenance := .syntheticTestBackend
    sourceClass := .syntheticBackend
    coverage := .fullEnumeration
    claims := claimsFor deviceClass (queueOffsetOf options.seed nameIndex)
    reason := .parseOrUnset (txt "synthetic-profile")
    description := txt "synthetic " ++ entry.name ++ txt " profile" }

/-- The capabilities that the conflicting source disagrees about. -/
def contested (claim : CapabilityClaim) : Bool :=
  claim.capability.toText == txt "fabric.queue.max_rx_queues" ||
    claim.capability.toText == txt "fabric.forwarding.max_ecmp_width"

/-- A quantity moves up by 64, when the factory takes it. -/
def alteredClaim (claim : CapabilityClaim) : CapabilityClaim :=
  match claim.value.storage with
  | .quantity q =>
      match CapabilityValue.quantityValue (q.value + 64) q.unit with
      | .ok value => { claim with value }
      | .error _ => claim
  | _ => claim

/-- The publication of the conflicting source, unless it has nothing to say. -/
def conflictPublications (deviceClass : SyntheticDeviceClass)
    (primary : SyntheticPublication) : List SyntheticPublication :=
  let claims := (primary.claims.filter contested).map alteredClaim
  if claims.isEmpty then []
  else
    [{ primary with
        source := .parseOrUnset (sourceName (entryFor deviceClass) "conflict")
        coverage := .partialSurface
        claims
        reason := .parseOrUnset (txt "synthetic-conflicting-source")
        description := txt "synthetic conflicting evidence source" }]

/-- The capability that the changing source changes. -/
def speeds (claim : CapabilityClaim) : Bool :=
  claim.capability.toText == txt "fabric.port.supported_speeds"

/-- The claim of the changing source. -/
def upgradedClaim (claim : CapabilityClaim) : CapabilityClaim :=
  match CapabilityValue.numericSetValue .bitsPerSecond
      [kGigabit, 25 * kGigabit, 100 * kGigabit] with
  | .ok value => { claim with value }
  | .error _ => claim

/-- The publication of the changing source, a copy of `front` but for its claims; nothing
when `front` claims no speeds. -/
def changedPublications (deviceClass : SyntheticDeviceClass)
    (front : SyntheticPublication) : List SyntheticPublication :=
  match front.claims.filter speeds with
  | [] => []
  | claim :: _ =>
      [{ front with
          source := .parseOrUnset (sourceName (entryFor deviceClass) "change")
          coverage := .partialSurface
          claims := [upgradedClaim claim]
          reason := .parseOrUnset (txt "synthetic-vendor-update")
          description := txt "synthetic vendor update that changes a capability value" }]

/-- The body of the loop over the devices. -/
def addDevice (deviceClass : SyntheticDeviceClass) (options : SyntheticOptions)
    (publications : List SyntheticPublication) (index : Nat) : List SyntheticPublication :=
  let nameIndex := options.nameOffset + UInt64.ofNat index
  if !(makeSyntheticEntity deviceClass nameIndex).isSet then publications
  else
    let primary := primaryPublication deviceClass options nameIndex
    let publications := publications ++ [primary]
    let publications :=
      if options.includeConflictingSource then
        publications ++ conflictPublications deviceClass primary
      else publications
    -- the front of the whole list, not of this device
    if options.includeChangingSource then
      publications ++ changedPublications deviceClass (publications.headD primary)
    else publications

/-- `BuildSyntheticFabric`. -/
def buildSyntheticFabric (deviceClass : SyntheticDeviceClass) (options : SyntheticOptions) :
    List SyntheticPublication :=
  (List.range options.deviceCount.toNat).foldl (addDevice deviceClass options) []

end FabricCapability.Ports
