import FabricCapability.Ports.Records

/-!
# The canonical capability schema

The data of `src/schema.cpp`: the enumeration domains and the built-in table of
capability descriptors.  The table is written with the builder of the source, one
method for each of its calls.

Every enumeration domain of the source declares the codes from zero up to a bound,
so a domain is its identifier and the number of its codes.
-/

namespace FabricCapability.Ports

/-! ## Enumeration domains -/

structure EnumDomainDescriptor where
  id : EnumDomainId
  codes : List UInt32
  deriving DecidableEq

def enumDomain (id : String) (count : Nat) : EnumDomainDescriptor :=
  ⟨.parseOrUnset (txt id), (List.range count).map UInt32.ofNat⟩

def builtinEnumDomains : List EnumDomainDescriptor :=
  [enumDomain "fabric.port.fec_mode" 6,
   enumDomain "fabric.port.media_type" 7,
   enumDomain "fabric.optics.transceiver_type" 8,
   enumDomain "fabric.optics.modulation" 2,
   enumDomain "fabric.optics.connector_type" 5,
   enumDomain "fabric.optics.fec_mode" 3,
   enumDomain "fabric.optics.dom_measurement" 6,
   enumDomain "fabric.queue.scheduler_class" 5,
   enumDomain "fabric.buffer.threshold_mechanism" 6,
   enumDomain "fabric.telemetry.family" 11,
   enumDomain "fabric.offload.programmable_class" 6,
   enumDomain "fabric.offload.virtualization_class" 6,
   enumDomain "fabric.offload.tunnel_class" 5,
   enumDomain "fabric.rdma.transport" 4,
   enumDomain "fabric.congestion.ecn_mode" 5,
   enumDomain "fabric.qos.trust_mode" 4,
   enumDomain "fabric.tunneling.encapsulation" 6,
   enumDomain "fabric.virtualization.isolation_feature" 5,
   enumDomain "fabric.timestamping.clock_source" 7,
   enumDomain "fabric.timestamping.precision_class" 4,
   enumDomain "fabric.timestamping.ptp_profile" 5,
   enumDomain "fabric.compatibility.class" 5]

/-! ## Descriptors -/

/-- The accepted typed form and the bounds of one capability. -/
structure CapabilityDescriptor where
  id : CapabilityId
  kind : ValueKind := .boolean
  unit : QuantityUnit := .none
  enumDomain : EnumDomainId := .unset
  minimumQuantity : UInt64 := 0
  maximumQuantity : UInt64 := kMaxQuantity
  bitCount : UInt32 := 0
  tupleArity : UInt8 := 0
  tupleComponentKinds : List ValueKind := List.replicate kMaxTupleArity .absent
  tupleComponentUnits : List QuantityUnit := List.replicate kMaxTupleArity .none
  maxSetCardinality : Nat := kMaxSetCardinality
  allowedProtocols : List ProtocolId := []
  compatibilityClass : CompatibilityClassId := .unset
  vendorExtension : Bool := false
  absenceIsNegative : Bool := false
  description : Bytes := []
  deriving DecidableEq

/-- `CanonicalId`: the identifier a text parses to, unset when it does not parse. -/
def canonicalId (text : String) : CapabilityId :=
  (CapabilityId.parse (txt text)).toOption.getD .unset

/-- `Builder`. -/
def builder (id : String) (kind : ValueKind) : CapabilityDescriptor :=
  { id := canonicalId id, kind }

namespace CapabilityDescriptor

def quantity (d : CapabilityDescriptor) (unit : QuantityUnit)
    (maximum : UInt64 := kMaxQuantity) : CapabilityDescriptor :=
  { d with unit, minimumQuantity := 0, maximumQuantity := maximum }

def range (d : CapabilityDescriptor) (unit : QuantityUnit)
    (maximum : UInt64 := kMaxQuantity) : CapabilityDescriptor :=
  { d with unit, maximumQuantity := maximum }

def set (d : CapabilityDescriptor) (unit : QuantityUnit) (cardinality : Nat := 64)
    (maximum : UInt64 := kMaxQuantity) : CapabilityDescriptor :=
  { d with unit, maxSetCardinality := cardinality, maximumQuantity := maximum }

def domain (d : CapabilityDescriptor) (domain : String) : CapabilityDescriptor :=
  { d with enumDomain := .parseOrUnset (txt domain) }

def enumSet (d : CapabilityDescriptor) (domain : String) (cardinality : Nat := 32) :
    CapabilityDescriptor :=
  { d with enumDomain := .parseOrUnset (txt domain), maxSetCardinality := cardinality }

def tuple (d : CapabilityDescriptor) (arity : UInt8) (first second : ValueKind) :
    CapabilityDescriptor :=
  let kinds := d.tupleComponentKinds.set 0 first
  { d with
    tupleArity := arity
    tupleComponentKinds := if arity ≥ 2 then kinds.set 1 second else kinds }

def protocols (d : CapabilityDescriptor) (codes : List UInt16) : CapabilityDescriptor :=
  { d with allowedProtocols := codes.map ProtocolId.mk }

/-- `Builder::Class`. -/
def ofClass (d : CapabilityDescriptor) (text : String) : CapabilityDescriptor :=
  { d with compatibilityClass := .parseOrUnset (txt text) }

/-- `Builder::AbsenceIsNegative`. -/
def negativeAbsence (d : CapabilityDescriptor) : CapabilityDescriptor :=
  { d with absenceIsNegative := true }

def describe (d : CapabilityDescriptor) (text : String) : CapabilityDescriptor :=
  { d with description := txt text }

end CapabilityDescriptor

/-! ## The table -/

def protocolDescriptors : List CapabilityDescriptor := [
  builder "fabric.protocol.families" .protocolSet
    |>.protocols [1, 2, 3, 4, 5, 6, 7, 8, 9, 10, 11, 12, 13, 14, 15, 16, 17, 18, 19, 20]
    |>.ofClass "generic-ethernet"
    |>.describe "protocol families the entity can carry",
  builder "fabric.protocol.version_range" .versionInterval
    |>.describe "accepted peer protocol version interval",
  builder "fabric.protocol.vlan_tag_depth" .quantity |>.quantity .count 8
    |>.describe "number of VLAN tags the datapath can push or pop",
  builder "fabric.protocol.mpls_label_depth" .quantity |>.quantity .count 16
    |>.describe "MPLS label stack depth",
  builder "fabric.protocol.srv6_supported" .boolean
    |>.describe "segment routing over IPv6 support",
  builder "fabric.protocol.lag_supported" .boolean
    |>.describe "link aggregation participant support"]

def forwardingDescriptors : List CapabilityDescriptor := [
  builder "fabric.forwarding.l2_forwarding" .boolean
    |>.ofClass "generic-ethernet" |>.describe "layer 2 forwarding",
  builder "fabric.forwarding.l3_forwarding" .boolean |>.describe "layer 3 forwarding",
  builder "fabric.forwarding.ecmp_supported" .boolean
    |>.describe "equal cost multipath support declaration",
  builder "fabric.forwarding.weighted_ecmp_supported" .boolean
    |>.describe "weighted equal cost multipath support declaration",
  builder "fabric.forwarding.max_ecmp_width" .quantity |>.quantity .count 4096
    |>.describe "maximum multipath width",
  builder "fabric.forwarding.multicast_supported" .boolean
    |>.describe "multicast forwarding",
  builder "fabric.forwarding.segment_routing_supported" .boolean
    |>.describe "segment routing forwarding",
  builder "fabric.forwarding.programmable_forwarding_supported" .boolean
    |>.describe "programmable forwarding pipeline",
  builder "fabric.forwarding.acl_tables_supported" .boolean
    |>.describe "ACL or filter table support",
  builder "fabric.forwarding.max_acl_entries" .quantity |>.quantity .count
    |>.describe "ACL entry scale",
  builder "fabric.forwarding.policy_routing_supported" .boolean
    |>.describe "policy based routing support",
  builder "fabric.forwarding.max_routes_ipv4" .quantity |>.quantity .count
    |>.describe "IPv4 route scale where authoritative",
  builder "fabric.forwarding.max_routes_ipv6" .quantity |>.quantity .count
    |>.describe "IPv6 route scale where authoritative",
  builder "fabric.forwarding.max_host_entries" .quantity |>.quantity .count
    |>.describe "host or neighbor table scale"]

def portDescriptors : List CapabilityDescriptor := [
  builder "fabric.port.supported_speeds" .numericSet
    |>.set .bitsPerSecond 64 1000000000000000 |>.ofClass "generic-ethernet"
    |>.describe "discrete link speeds the port may be configured for",
  builder "fabric.port.supported_lane_counts" .numericSet |>.set .count 32 64
    |>.describe "lane counts the port may be broken out into",
  builder "fabric.port.lane_rates" .numericSet |>.set .bitsPerSecond 32 1000000000000
    |>.describe "per lane signalling rates",
  builder "fabric.port.lane_configurations" .tupleSet |>.tuple 2 .quantity .quantity
    |>.describe "valid (lane count, lane rate) combinations",
  builder "fabric.port.breakout_modes" .enumSet |>.enumSet "fabric.port.media_type" 16
    |>.describe "declared breakout modes of a physical port",
  builder "fabric.port.mtu_range" .numericRange |>.range .bytes 1000000
    |>.ofClass "generic-ethernet" |>.describe "supported MTU interval",
  builder "fabric.port.max_frame_size" .quantity |>.quantity .bytes 1000000
    |>.describe "maximum frame size the port accepts",
  builder "fabric.port.supported_fec_modes" .enumSet |>.enumSet "fabric.port.fec_mode" 8
    |>.describe "forward error correction modes",
  builder "fabric.port.media_types" .enumSet |>.enumSet "fabric.port.media_type" 8
    |>.describe "physical media classes",
  builder "fabric.port.connector_types" .enumSet
    |>.enumSet "fabric.optics.connector_type" 8 |>.describe "connector types",
  builder "fabric.port.max_breakout_children" .quantity |>.quantity .count 64
    |>.describe "maximum number of breakout children",
  builder "fabric.port.pause_frame_support" .boolean
    |>.describe "pause frame support declaration"]

def opticsDescriptors : List CapabilityDescriptor := [
  builder "fabric.optics.transceiver_types" .enumSet
    |>.enumSet "fabric.optics.transceiver_type" 16 |>.ofClass "optical-facing"
    |>.describe "supported transceiver form factors",
  builder "fabric.optics.supported_rates" .numericSet
    |>.set .bitsPerSecond 64 100000000000000 |>.describe "supported optical rates",
  builder "fabric.optics.lane_counts" .numericSet |>.set .count 32 64
    |>.describe "supported optical lane counts",
  builder "fabric.optics.modulation_formats" .enumSet
    |>.enumSet "fabric.optics.modulation" 8 |>.describe "supported modulation formats",
  builder "fabric.optics.fec_modes" .enumSet |>.enumSet "fabric.optics.fec_mode" 8
    |>.describe "supported optical FEC modes",
  builder "fabric.optics.wavelengths" .numericSet |>.set .nanometers 256 2000
    |>.describe "supported centre wavelengths in nanometres",
  builder "fabric.optics.diagnostic_monitoring_supported" .boolean
    |>.describe "digital optical monitoring support declaration",
  builder "fabric.optics.dom_measurements" .enumSet
    |>.enumSet "fabric.optics.dom_measurement" 16
    |>.describe "available digital optical monitoring measurements"]

def queueDescriptors : List CapabilityDescriptor := [
  builder "fabric.queue.max_rx_queues" .quantity |>.quantity .count 1000000
    |>.describe "maximum receive queue count",
  builder "fabric.queue.max_tx_queues" .quantity |>.quantity .count 1000000
    |>.describe "maximum transmit queue count",
  builder "fabric.queue.traffic_class_count" .quantity |>.quantity .count 64
    |>.describe "number of traffic classes",
  builder "fabric.queue.priority_count" .quantity |>.quantity .count 64
    |>.describe "number of priorities",
  builder "fabric.queue.scheduler_classes" .enumSet
    |>.enumSet "fabric.queue.scheduler_class" 8
    |>.describe "supported queue scheduler classes",
  builder "fabric.queue.per_queue_telemetry_supported" .boolean
    |>.describe "per queue counter availability declaration",
  builder "fabric.queue.isolation_supported" .boolean
    |>.describe "queue isolation support declaration"]

def bufferExposureDescriptors : List CapabilityDescriptor := [
  builder "fabric.buffer-exposure.total_packet_buffer" .quantity |>.quantity .bytes
    |>.describe "total exposed packet buffer memory",
  builder "fabric.buffer-exposure.per_port_buffer_ceiling" .quantity |>.quantity .bytes
    |>.describe "per port exposed buffer ceiling",
  builder "fabric.buffer-exposure.shared_buffer_supported" .boolean
    |>.describe "shared buffer support declaration",
  builder "fabric.buffer-exposure.threshold_mechanisms" .enumSet
    |>.enumSet "fabric.buffer.threshold_mechanism" 8
    |>.describe "supported buffer threshold mechanisms",
  builder "fabric.buffer-exposure.headroom_supported" .boolean
    |>.describe "headroom support declaration"]

def telemetryDescriptors : List CapabilityDescriptor := [
  builder "fabric.telemetry.families" .enumSet |>.enumSet "fabric.telemetry.family" 16
    |>.describe "telemetry families the entity can expose",
  builder "fabric.telemetry.max_flow_export_entries" .quantity |>.quantity .count
    |>.describe "flow telemetry export scale",
  builder "fabric.telemetry.histogram_supported" .boolean
    |>.describe "histogram telemetry support declaration"]

def offloadDescriptors : List CapabilityDescriptor := [
  builder "fabric.offload.checksum_rx" .boolean
    |>.describe "receive checksum offload declaration",
  builder "fabric.offload.checksum_tx" .boolean
    |>.describe "transmit checksum offload declaration",
  builder "fabric.offload.segmentation_offload" .boolean
    |>.describe "TSO or GSO style segmentation offload declaration",
  builder "fabric.offload.receive_side_scaling" .boolean
    |>.describe "receive side scaling declaration",
  builder "fabric.offload.max_rss_queues" .quantity |>.quantity .count 1000000
    |>.describe "maximum receive side scaling queue count",
  builder "fabric.offload.flow_steering" .boolean |>.describe "flow steering declaration",
  builder "fabric.offload.crypto" .boolean
    |>.describe "network local crypto offload declaration",
  builder "fabric.offload.compression" .boolean
    |>.describe "network local compression offload declaration",
  builder "fabric.offload.rdma" .boolean |>.describe "RDMA offload declaration",
  builder "fabric.offload.accelerator_adjacent_network" .boolean
    |>.describe "accelerator adjacent network path declaration",
  builder "fabric.offload.programmable_offload_classes" .enumSet
    |>.enumSet "fabric.offload.programmable_class" 16
    |>.ofClass "programmable-datapath"
    |>.describe "programmable offload classes",
  builder "fabric.offload.virtualization_offloads" .enumSet
    |>.enumSet "fabric.offload.virtualization_class" 16
    |>.describe "virtualization offload classes",
  builder "fabric.offload.tunnel_offloads" .enumSet
    |>.enumSet "fabric.offload.tunnel_class" 16 |>.describe "tunnel offload classes"]

def rdmaDescriptors : List CapabilityDescriptor := [
  builder "fabric.rdma.transport_families" .enumSet |>.enumSet "fabric.rdma.transport" 8
    |>.ofClass "rdma-capable"
    |>.describe "RDMA transport families the entity declares",
  builder "fabric.rdma.max_queue_pairs" .quantity |>.quantity .count 10000000
    |>.describe "maximum queue pairs",
  builder "fabric.rdma.atomic_operations_supported" .boolean
    |>.describe "RDMA atomic operations declaration",
  builder "fabric.rdma.reliable_connection_supported" .boolean
    |>.describe "reliable connection transport declaration",
  builder "fabric.rdma.memory_window_supported" .boolean
    |>.describe "memory window declaration",
  builder "fabric.rdma.max_message_size" .quantity |>.quantity .bytes 1073741824
    |>.describe "maximum RDMA message size"]

def congestionDescriptors : List CapabilityDescriptor := [
  builder "fabric.congestion.ecn_supported" .boolean
    |>.describe "explicit congestion notification support declaration",
  builder "fabric.congestion.pfc_supported" .boolean
    |>.describe "priority flow control support declaration",
  builder "fabric.congestion.pause_supported" .boolean
    |>.describe "link level pause support declaration",
  builder "fabric.congestion.credit_flow_control_supported" .boolean
    |>.describe "credit based flow control support declaration",
  builder "fabric.congestion.pacing_supported" .boolean
    |>.describe "transmit pacing support declaration",
  builder "fabric.congestion.congestion_marking_supported" .boolean
    |>.describe "congestion marking support declaration",
  builder "fabric.congestion.congestion_telemetry_supported" .boolean
    |>.describe "congestion telemetry support declaration",
  builder "fabric.congestion.adaptive_routing_signaling_supported" .boolean
    |>.describe "adaptive routing signalling support declaration",
  builder "fabric.congestion.ecn_marking_modes" .enumSet
    |>.enumSet "fabric.congestion.ecn_mode" 8
    |>.describe "supported congestion notification marking modes"]

def qosDescriptors : List CapabilityDescriptor := [
  builder "fabric.qos.priority_count" .quantity |>.quantity .count 64
    |>.describe "number of QoS priorities",
  builder "fabric.qos.traffic_class_count" .quantity |>.quantity .count 64
    |>.describe "number of QoS traffic classes",
  builder "fabric.qos.shaper_supported" .boolean
    |>.describe "traffic shaping support declaration",
  builder "fabric.qos.policer_supported" .boolean
    |>.describe "traffic policing support declaration",
  builder "fabric.qos.marking_supported" .boolean
    |>.describe "packet marking support declaration",
  builder "fabric.qos.trust_modes" .enumSet |>.enumSet "fabric.qos.trust_mode" 8
    |>.describe "supported QoS trust modes",
  builder "fabric.qos.strict_priority_supported" .boolean
    |>.describe "strict priority scheduling declaration",
  builder "fabric.qos.weighted_scheduling_supported" .boolean
    |>.describe "weighted scheduling declaration"]

def tunnelingDescriptors : List CapabilityDescriptor := [
  builder "fabric.tunneling.encapsulations" .enumSet
    |>.enumSet "fabric.tunneling.encapsulation" 16
    |>.describe "supported tunnel encapsulations",
  builder "fabric.tunneling.max_tunnel_endpoints" .quantity |>.quantity .count 10000000
    |>.describe "tunnel endpoint scale",
  builder "fabric.tunneling.decap_supported" .boolean
    |>.describe "tunnel decapsulation declaration",
  builder "fabric.tunneling.udp_based_supported" .boolean
    |>.describe "UDP based encapsulation declaration"]

def virtualizationDescriptors : List CapabilityDescriptor := [
  builder "fabric.virtualization.sriov_supported" .boolean |>.negativeAbsence
    |>.describe "SR-IOV support declaration; a complete PCI enumeration settles absence",
  builder "fabric.virtualization.max_virtual_functions" .quantity |>.quantity .count 4096
    |>.describe "maximum virtual functions",
  builder "fabric.virtualization.max_physical_functions" .quantity |>.quantity .count 64
    |>.describe "maximum physical functions",
  builder "fabric.virtualization.virtual_ports_supported" .boolean
    |>.describe "virtual port declaration",
  builder "fabric.virtualization.representors_supported" .boolean
    |>.describe "port representor declaration",
  builder "fabric.virtualization.partitioning_supported" .boolean
    |>.describe "device partitioning declaration",
  builder "fabric.virtualization.tenant_isolation_features" .enumSet
    |>.enumSet "fabric.virtualization.isolation_feature" 16
    |>.describe "tenant isolation features"]

def timestampingDescriptors : List CapabilityDescriptor := [
  builder "fabric.timestamping.hardware_timestamp_supported" .boolean |>.negativeAbsence
    |>.describe "hardware timestamping declaration; a complete device capability query settles absence",
  builder "fabric.timestamping.software_timestamp_supported" .boolean
    |>.describe "software timestamping declaration",
  builder "fabric.timestamping.rx_timestamp_supported" .boolean
    |>.describe "receive timestamp declaration",
  builder "fabric.timestamping.tx_timestamp_supported" .boolean
    |>.describe "transmit timestamp declaration",
  builder "fabric.timestamping.clock_sources" .enumSet
    |>.enumSet "fabric.timestamping.clock_source" 16 |>.describe "supported clock sources",
  builder "fabric.timestamping.precision_class" .enumeration
    |>.domain "fabric.timestamping.precision_class" |>.describe "timestamp precision class",
  builder "fabric.timestamping.ptp_profiles" .enumSet
    |>.enumSet "fabric.timestamping.ptp_profile" 8 |>.describe "supported PTP profiles"]

def deviceManagementDescriptors : List CapabilityDescriptor := [
  builder "fabric.device-management.supported_api_versions" .versionInterval
    |>.describe "device management API version interval",
  builder "fabric.device-management.config_rollback_supported" .boolean
    |>.describe "configuration rollback declaration",
  builder "fabric.device-management.secure_boot_supported" .boolean
    |>.describe "secure boot declaration",
  builder "fabric.compatibility.class" .enumeration |>.domain "fabric.compatibility.class"
    |>.describe "declared capability compatibility class",
  builder "fabric.compatibility.api_version_range" .versionInterval
    |>.describe "capability API version interval the entity is compatible with",
  builder "fabric.compatibility.requires_firmware_at_least" .versionInterval
    |>.describe "firmware version interval the capability truth was established under"]

/-- The unsorted list that `MakeCanonicalDescriptors` fills. -/
def canonicalTable : List CapabilityDescriptor :=
  protocolDescriptors ++
  forwardingDescriptors ++
  portDescriptors ++
  opticsDescriptors ++
  queueDescriptors ++
  bufferExposureDescriptors ++
  telemetryDescriptors ++
  offloadDescriptors ++
  rdmaDescriptors ++
  congestionDescriptors ++
  qosDescriptors ++
  tunnelingDescriptors ++
  virtualizationDescriptors ++
  timestampingDescriptors ++
  deviceManagementDescriptors

end FabricCapability.Ports
