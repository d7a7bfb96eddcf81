/-
  The generated registries (`protocol/generated`), as far as the wire codecs read
  them: the id and the name of every method, event and error, in the order of the
  generated tables.
-/
import Axtp.Model.Types

namespace Axtp

structure Descriptor where
  id : UInt16
  name : String

/-- `kMethodRegistry`. -/
def kMethodRegistry : List Descriptor :=
  [⟨0x0101, "device.getInfo"⟩, ⟨0x0102, "device.getPairingCode"⟩,
   ⟨0x0103, "device.getEnrollmentState"⟩, ⟨0x0104, "device.setEnrollmentState"⟩,
   ⟨0x0401, "firmware.getUpdateCapabilities"⟩, ⟨0x0402, "firmware.beginUpdate"⟩,
   ⟨0x0408, "firmware.getUpdateState"⟩, ⟨0x040B, "firmware.finishUpdate"⟩,
   ⟨0x0501, "stream.getCapabilities"⟩, ⟨0x0502, "stream.getState"⟩, ⟨0x0503, "stream.getStats"⟩,
   ⟨0x0504, "stream.ack"⟩, ⟨0x0505, "stream.windowUpdate"⟩, ⟨0x0506, "stream.pause"⟩,
   ⟨0x0507, "stream.resume"⟩, ⟨0x0508, "stream.abort"⟩, ⟨0x080B, "video.openStream"⟩,
   ⟨0x080C, "video.closeStream"⟩, ⟨0x080D, "video.getStreamState"⟩,
   ⟨0x0812, "video.getStreamCapabilities"⟩, ⟨0x0813, "video.getStreamSourceState"⟩,
   ⟨0x0814, "video.requestKeyFrame"⟩, ⟨0x0901, "audio.getAlgorithmConfig"⟩,
   ⟨0x0902, "audio.setAlgorithmConfig"⟩, ⟨0x090D, "audio.getAlgorithmCapabilities"⟩,
   ⟨0x090E, "audio.resetAlgorithmConfig"⟩, ⟨0x090F, "audio.getStreamCapabilities"⟩,
   ⟨0x0910, "audio.openStream"⟩, ⟨0x0911, "audio.closeStream"⟩, ⟨0x0912, "audio.getStreamState"⟩,
   ⟨0x0913, "audio.getStreamSourceState"⟩, ⟨0x0D01, "signage.getPlaylistCapabilities"⟩,
   ⟨0x0D02, "signage.getPlaylistConfig"⟩, ⟨0x0D03, "signage.setPlaylistConfig"⟩,
   ⟨0x0D04, "signage.resetPlaylistConfig"⟩, ⟨0x0D05, "signage.getPlaylistItemUrl"⟩,
   ⟨0x0D06, "signage.getPlaylistItem"⟩, ⟨0x0E02, "network.getIpConfig"⟩,
   ⟨0x0E03, "network.setIpConfig"⟩, ⟨0x0E04, "network.getWifiConfig"⟩,
   ⟨0x0E05, "network.setWifiConfig"⟩, ⟨0x0E06, "network.scanWifi"⟩,
   ⟨0x0E07, "network.connectWifi"⟩, ⟨0x0E08, "network.disconnectWifi"⟩,
   ⟨0x0E09, "network.getWifiState"⟩, ⟨0x0E0A, "network.getApConfig"⟩,
   ⟨0x0E0B, "network.setApConfig"⟩, ⟨0x0E0C, "network.startAp"⟩, ⟨0x0E0D, "network.stopAp"⟩,
   ⟨0x0E0E, "network.getApState"⟩, ⟨0x0E10, "network.getInterfaces"⟩,
   ⟨0x0E11, "network.getInterfaceInfo"⟩, ⟨0x0E12, "network.getWifiCapabilities"⟩,
   ⟨0x0E13, "network.getApCapabilities"⟩, ⟨0x0E14, "network.getApClients"⟩,
   ⟨0x1601, "cast.getSession"⟩, ⟨0x1602, "cast.stopSession"⟩, ⟨0x1603, "cast.getAirPlayName"⟩,
   ⟨0x1604, "cast.setAirPlayName"⟩, ⟨0x1605, "cast.getAudio"⟩, ⟨0x1606, "cast.setAudio"⟩,
   ⟨0x1607, "cast.setMuted"⟩, ⟨0x1608, "cast.getPinCodeConfig"⟩,
   ⟨0x1609, "cast.setPinCodeConfig"⟩, ⟨0x160A, "cast.setPinCode"⟩,
   ⟨0x160B, "cast.getWindowState"⟩, ⟨0x160C, "cast.setWindowState"⟩,
   ⟨0x160D, "cast.getBackendStatus"⟩, ⟨0x160E, "cast.restartBackend"⟩,
   ⟨0x160F, "cast.getFlowControlState"⟩, ⟨0x1610, "cast.setRenderFps"⟩,
   ⟨0x1611, "cast.setFlowPolicy"⟩, ⟨0x1612, "cast.getStatus"⟩, ⟨0x1613, "cast.setAudioDelay"⟩,
   ⟨0x1614, "cast.setVideoStreamParams"⟩, ⟨0x1615, "cast.getControlCapabilities"⟩,
   ⟨0x1616, "cast.stopPresentation"⟩, ⟨0x1617, "cast.setSessionAudioEnabled"⟩,
   ⟨0x1618, "cast.getControlOperation"⟩, ⟨0x1619, "cast.setPresentationSettings"⟩,
   ⟨0x161A, "cast.getWebCastBackendState"⟩, ⟨0x161B, "cast.setPresentationFocus"⟩,
   ⟨0x1701, "software.getConfig"⟩, ⟨0x1702, "software.setConfig"⟩,
   ⟨0x1703, "software.resetConfig"⟩, ⟨0x1704, "software.getUpdatePolicy"⟩,
   ⟨0x1705, "software.setUpdatePolicy"⟩, ⟨0x1706, "software.resetUpdatePolicy"⟩,
   ⟨0x1801, "sport.getEventDetectionCapabilities"⟩, ⟨0x1802, "sport.getEventDetectionConfig"⟩,
   ⟨0x1803, "sport.setEventDetectionConfig"⟩, ⟨0x1804, "sport.getGoalShotWatermarkConfig"⟩,
   ⟨0x1805, "sport.setGoalShotWatermarkConfig"⟩, ⟨0x1806, "sport.getEventClipConfig"⟩,
   ⟨0x1807, "sport.setEventClipConfig"⟩]

/-- `kEventRegistry`. -/
def kEventRegistry : List Descriptor :=
  [⟨0x0102, "device.enrollmentStateChanged"⟩, ⟨0x0402, "firmware.updateProgressReported"⟩,
   ⟨0x0403, "firmware.updateStateChanged"⟩, ⟨0x0501, "stream.stateChanged"⟩,
   ⟨0x0502, "stream.statsReported"⟩, ⟨0x0503, "stream.flowControlChanged"⟩,
   ⟨0x0504, "stream.clockReport"⟩, ⟨0x0806, "video.streamStateChanged"⟩,
   ⟨0x0807, "video.streamSourceStateChanged"⟩, ⟨0x0808, "video.streamStatsReported"⟩,
   ⟨0x0901, "audio.algorithmConfigChanged"⟩, ⟨0x0902, "audio.streamStateChanged"⟩,
   ⟨0x0903, "audio.streamSourceStateChanged"⟩, ⟨0x0904, "audio.streamStatsReported"⟩,
   ⟨0x0D01, "signage.playlistConfigChanged"⟩, ⟨0x0E01, "network.interfaceStateChanged"⟩,
   ⟨0x0E02, "network.ipConfigChanged"⟩, ⟨0x0E03, "network.wifiConfigChanged"⟩,
   ⟨0x0E04, "network.wifiStateChanged"⟩, ⟨0x0E05, "network.wifiScanResultReported"⟩,
   ⟨0x0E06, "network.apConfigChanged"⟩, ⟨0x0E07, "network.apStateChanged"⟩,
   ⟨0x0E08, "network.apClientChanged"⟩, ⟨0x1601, "cast.sessionIncoming"⟩,
   ⟨0x1602, "cast.sessionStateChanged"⟩, ⟨0x1603, "cast.sessionStarted"⟩,
   ⟨0x1604, "cast.sessionStopped"⟩, ⟨0x1605, "cast.sessionFailed"⟩, ⟨0x1606, "cast.audioChanged"⟩,
   ⟨0x1607, "cast.pinCodeChanged"⟩, ⟨0x1608, "cast.pinCodeRequired"⟩,
   ⟨0x1609, "cast.pinCodeAuthFailed"⟩, ⟨0x160A, "cast.windowChanged"⟩,
   ⟨0x160B, "cast.backendChanged"⟩, ⟨0x160C, "cast.flowControlChanged"⟩,
   ⟨0x160D, "cast.receiversChanged"⟩, ⟨0x160E, "cast.sessionsChanged"⟩,
   ⟨0x160F, "cast.presentationChanged"⟩, ⟨0x1610, "cast.audioPolicyChanged"⟩,
   ⟨0x1611, "cast.controlOperationChanged"⟩, ⟨0x1612, "cast.presentationSettingsChanged"⟩,
   ⟨0x1613, "cast.webcastBackendChanged"⟩, ⟨0x1614, "cast.airplayChanged"⟩,
   ⟨0x1701, "software.configChanged"⟩, ⟨0x1702, "software.updatePolicyChanged"⟩,
   ⟨0x1801, "sport.eventDetectionStateChanged"⟩, ⟨0x1802, "sport.eventDetected"⟩]

/-- `kErrorRegistry`. -/
def kErrorRegistry : List Descriptor :=
  [⟨0x0000, "SUCCESS"⟩, ⟨0x0001, "UNKNOWN_ERROR"⟩, ⟨0x0002, "NOT_IMPLEMENTED"⟩,
   ⟨0x0003, "NOT_SUPPORTED"⟩, ⟨0x0004, "INVALID_STATE"⟩, ⟨0x0005, "BUSY"⟩, ⟨0x0006, "TIMEOUT"⟩,
   ⟨0x0007, "CANCELED"⟩, ⟨0x0008, "RESOURCE_EXHAUSTED"⟩, ⟨0x0009, "PERMISSION_DENIED"⟩,
   ⟨0x000A, "INVALID_ARGUMENT"⟩, ⟨0x000B, "OUT_OF_RANGE"⟩, ⟨0x000C, "NOT_FOUND"⟩,
   ⟨0x000D, "ALREADY_EXISTS"⟩, ⟨0x000E, "INTERNAL_ERROR"⟩, ⟨0x000F, "UNAVAILABLE"⟩,
   ⟨0x0011, "FRAME_MAGIC_INVALID"⟩, ⟨0x0012, "FRAME_VERSION_UNSUPPORTED"⟩,
   ⟨0x0013, "FRAME_HEADER_INVALID"⟩, ⟨0x0014, "FRAME_LENGTH_INVALID"⟩,
   ⟨0x0015, "FRAME_PAYLOAD_TYPE_INVALID"⟩, ⟨0x0016, "FRAME_CRC_ERROR"⟩,
   ⟨0x0017, "FRAME_FRAGMENT_INVALID"⟩, ⟨0x0018, "FRAME_FRAGMENT_MISSING"⟩,
   ⟨0x0019, "FRAME_REASSEMBLY_TIMEOUT"⟩, ⟨0x001A, "FRAME_TOO_LARGE"⟩,
   ⟨0x001B, "TRANSPORT_MTU_EXCEEDED"⟩, ⟨0x001C, "TRANSPORT_WRITE_FAILED"⟩,
   ⟨0x001D, "TRANSPORT_READ_FAILED"⟩, ⟨0x001E, "TRANSPORT_DISCONNECTED"⟩,
   ⟨0x0021, "CONTROL_OPCODE_INVALID"⟩, ⟨0x0022, "CONTROL_PAYLOAD_INVALID"⟩,
   ⟨0x0023, "RESERVED_CONTROL_BODY_ENCODING_UNSUPPORTED"⟩, ⟨0x0024, "CONTROL_OPEN_REQUIRED"⟩,
   ⟨0x0025, "CONTROL_OPEN_REJECTED"⟩, ⟨0x0026, "RESERVED_CONTROL_PROFILE_UNSUPPORTED"⟩,
   ⟨0x0027, "CONTROL_NEGOTIATION_FAILED"⟩, ⟨0x0028, "CONTROL_SESSION_INVALID"⟩,
   ⟨0x0029, "CONTROL_SESSION_EXPIRED"⟩, ⟨0x002A, "CONTROL_RESUME_FAILED"⟩,
   ⟨0x002B, "CONTROL_ACK_TARGET_INVALID"⟩, ⟨0x002C, "CONTROL_WINDOW_EXCEEDED"⟩,
   ⟨0x002D, "CONTROL_HEARTBEAT_TIMEOUT"⟩, ⟨0x0031, "RPC_ENCODING_UNSUPPORTED"⟩,
   ⟨0x0032, "RPC_OP_INVALID"⟩, ⟨0x0033, "RPC_PAYLOAD_INVALID"⟩,
   ⟨0x0034, "RPC_BODY_ENCODING_UNSUPPORTED"⟩, ⟨0x0035, "RPC_BODY_DECODE_FAILED"⟩,
   ⟨0x0036, "RPC_METHOD_NOT_FOUND"⟩, ⟨0x0037, "RPC_METHOD_NOT_SUPPORTED"⟩,
   ⟨0x0038, "RPC_METHOD_DISABLED"⟩, ⟨0x0039, "RPC_REQUEST_ID_INVALID"⟩,
   ⟨0x003A, "RPC_PARAM_MISSING"⟩, ⟨0x003B, "RPC_PARAM_INVALID"⟩,
   ⟨0x003C, "RPC_PARAM_OUT_OF_RANGE"⟩, ⟨0x003D, "RPC_EXECUTION_FAILED"⟩,
   ⟨0x003E, "RPC_RESPONSE_TIMEOUT"⟩, ⟨0x003F, "RPC_BATCH_UNSUPPORTED"⟩,
   ⟨0x0040, "RPC_BATCH_PARTIAL_FAILED"⟩, ⟨0x0101, "DEVICE_INFO_UNAVAILABLE"⟩,
   ⟨0x0102, "DEVICE_REBOOT_FAILED"⟩, ⟨0x0103, "DEVICE_FACTORY_RESET_FAILED"⟩,
   ⟨0x0104, "DEVICE_LOW_POWER"⟩, ⟨0x0105, "DEVICE_OVER_TEMPERATURE"⟩,
   ⟨0x0106, "DEVICE_STORAGE_FULL"⟩, ⟨0x0107, "DEVICE_MODE_CONFLICT"⟩,
   ⟨0x0108, "DEVICE_RESOURCE_BUSY"⟩, ⟨0x0109, "DEVICE_HARDWARE_FAILURE"⟩,
   ⟨0x010A, "ENROLLMENT_CODE_EXPIRED"⟩, ⟨0x010B, "ENROLLMENT_CODE_ALREADY_USED"⟩,
   ⟨0x0201, "CAPABILITY_NOT_FOUND"⟩, ⟨0x0202, "CAPABILITY_DOMAIN_NOT_FOUND"⟩,
   ⟨0x0203, "CAPABILITY_METHOD_UNSUPPORTED"⟩, ⟨0x0204, "CAPABILITY_EVENT_UNSUPPORTED"⟩,
   ⟨0x0205, "CAPABILITY_STREAM_UNSUPPORTED"⟩, ⟨0x0206, "CAPABILITY_ENCODING_UNSUPPORTED"⟩,
   ⟨0x0207, "CAPABILITY_NEGOTIATION_FAILED"⟩, ⟨0x0208, "CAPABILITY_LIMIT_EXCEEDED"⟩,
   ⟨0x0401, "FW_IMAGE_INVALID"⟩, ⟨0x0402, "FW_IMAGE_TYPE_UNSUPPORTED"⟩,
   ⟨0x0403, "FW_VERSION_UNSUPPORTED"⟩, ⟨0x0404, "FW_VERSION_TOO_OLD"⟩,
   ⟨0x0405, "FW_TRANSFER_NOT_STARTED"⟩, ⟨0x0406, "FW_TRANSFER_ALREADY_STARTED"⟩,
   ⟨0x0407, "FW_CHUNK_INVALID"⟩, ⟨0x0408, "FW_CHUNK_CRC_ERROR"⟩, ⟨0x0409, "FW_SIZE_MISMATCH"⟩,
   ⟨0x040A, "FW_HASH_MISMATCH"⟩, ⟨0x040B, "FW_VERIFY_FAILED"⟩, ⟨0x040C, "FW_APPLY_FAILED"⟩,
   ⟨0x040D, "FW_ROLLBACK_FAILED"⟩, ⟨0x040E, "FW_STORAGE_NOT_ENOUGH"⟩,
   ⟨0x040F, "FW_DEVICE_NOT_READY"⟩, ⟨0x0410, "FW_REBOOT_REQUIRED"⟩, ⟨0x0501, "STREAM_NOT_FOUND"⟩,
   ⟨0x0502, "STREAM_TIMEOUT"⟩, ⟨0x0503, "STREAM_CRC_ERROR"⟩, ⟨0x0504, "STREAM_PAYLOAD_INVALID"⟩,
   ⟨0x0505, "STREAM_ID_INVALID"⟩, ⟨0x0506, "STREAM_NOT_OPEN"⟩, ⟨0x0507, "STREAM_ALREADY_OPEN"⟩,
   ⟨0x0508, "STREAM_SEQ_INVALID"⟩, ⟨0x0509, "STREAM_SEQ_DUPLICATED"⟩,
   ⟨0x050A, "STREAM_CHUNK_MISSING"⟩, ⟨0x050B, "STREAM_OFFSET_INVALID"⟩,
   ⟨0x050C, "STREAM_WINDOW_FULL"⟩, ⟨0x050D, "STREAM_BACKPRESSURE"⟩,
   ⟨0x050E, "STREAM_RESUME_UNSUPPORTED"⟩, ⟨0x050F, "STREAM_RESUME_FAILED"⟩,
   ⟨0x0510, "STREAM_CLOSED"⟩, ⟨0x0511, "STREAM_TRANSFER_ABORTED"⟩,
   ⟨0x0801, "MEDIA_SOURCE_NOT_FOUND"⟩, ⟨0x0802, "MEDIA_SOURCE_UNAVAILABLE"⟩,
   ⟨0x0803, "MEDIA_CODEC_UNSUPPORTED"⟩, ⟨0x0804, "MEDIA_RESOLUTION_UNSUPPORTED"⟩,
   ⟨0x0805, "MEDIA_FRAMERATE_UNSUPPORTED"⟩, ⟨0x0806, "MEDIA_BITRATE_UNSUPPORTED"⟩,
   ⟨0x0807, "MEDIA_STREAM_START_FAILED"⟩, ⟨0x0808, "MEDIA_STREAM_STOP_FAILED"⟩,
   ⟨0x0809, "MEDIA_FRAME_DROPPED"⟩, ⟨0x080B, "MEDIA_VIDEO_SIGNAL_LOST"⟩,
   ⟨0x090A, "MEDIA_AUDIO_DEVICE_NOT_FOUND"⟩, ⟨0x1001, "FILE_NOT_FOUND"⟩,
   ⟨0x1002, "FILE_ALREADY_EXISTS"⟩, ⟨0x1003, "FILE_PERMISSION_DENIED"⟩,
   ⟨0x1004, "FILE_PATH_INVALID"⟩, ⟨0x1005, "FILE_TYPE_UNSUPPORTED"⟩, ⟨0x1006, "FILE_TOO_LARGE"⟩,
   ⟨0x1007, "FILE_READ_FAILED"⟩, ⟨0x1008, "FILE_WRITE_FAILED"⟩, ⟨0x1009, "FILE_DELETE_FAILED"⟩,
   ⟨0x100A, "FILE_TRANSFER_FAILED"⟩, ⟨0x100B, "FILE_VERIFY_FAILED"⟩,
   ⟨0x100C, "FILE_STORAGE_FULL"⟩, ⟨0x1201, "DIAG_TEST_NOT_FOUND"⟩,
   ⟨0x1202, "DIAG_TEST_UNSUPPORTED"⟩, ⟨0x1203, "DIAG_TEST_RUNNING"⟩, ⟨0x1204, "DIAG_TEST_FAILED"⟩,
   ⟨0x1205, "DIAG_METRIC_UNAVAILABLE"⟩, ⟨0x1206, "DIAG_LOOPBACK_FAILED"⟩,
   ⟨0x1401, "SEC_AUTH_REQUIRED"⟩, ⟨0x1402, "SEC_AUTH_FAILED"⟩, ⟨0x1403, "SEC_PERMISSION_DENIED"⟩,
   ⟨0x1404, "SEC_ENCRYPTION_REQUIRED"⟩, ⟨0x1405, "SEC_DECRYPT_FAILED"⟩,
   ⟨0x1406, "SEC_SIGNATURE_INVALID"⟩, ⟨0x1407, "SEC_CERT_INVALID"⟩, ⟨0x1408, "SEC_TOKEN_EXPIRED"⟩,
   ⟨0x7F01, "LEGACY_CMD_UNMAPPED"⟩, ⟨0x7F02, "LEGACY_STATUS_UNMAPPED"⟩,
   ⟨0x7F03, "LEGACY_PAYLOAD_INVALID"⟩, ⟨0x7F04, "LEGACY_PAYLOAD_TOO_SHORT"⟩,
   ⟨0x7F05, "LEGACY_PAYLOAD_TOO_LONG"⟩, ⟨0x7F06, "LEGACY_FIELD_UNSUPPORTED"⟩,
   ⟨0x7F07, "LEGACY_CAPABILITY_CONFLICT"⟩, ⟨0x7F08, "LEGACY_RESPONSE_TIMEOUT"⟩]

/-- `generated::kSpecVersion`. -/
def kSpecVersion : Bytes := ascii "0.18.0"

/-! ### `RegistryLookup`: the first row that matches -/

namespace RegistryLookup

def idByName (table : List Descriptor) (name : Bytes) : Option UInt16 :=
  (table.find? fun descriptor => ascii descriptor.name = name).map Descriptor.id

def nameById (table : List Descriptor) (id : UInt16) : Option Bytes :=
  (table.find? fun descriptor => descriptor.id = id).map fun descriptor => ascii descriptor.name

def methodIdByName (name : Bytes) : Option UInt16 := idByName kMethodRegistry name

def methodById (id : UInt16) : Option Bytes := nameById kMethodRegistry id

def eventIdByName (name : Bytes) : Option UInt16 := idByName kEventRegistry name

def eventById (id : UInt16) : Option Bytes := nameById kEventRegistry id

def errorByCode (code : ErrorCode) : Option Bytes := nameById kErrorRegistry code.value

theorem isAscii_of_nameById {table : List Descriptor} {id : UInt16} {name : Bytes}
    (h : nameById table id = some name) : ∀ a ∈ name, a < 0x80 := by
  obtain ⟨descriptor, -, rfl⟩ := Option.map_eq_some_iff.mp h
  exact fun _ => lt_of_mem_ascii

end RegistryLookup

end Axtp
