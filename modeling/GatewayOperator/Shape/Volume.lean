import GatewayOperator.Shape.Basic

/-!
# Fields: volumes of a pod
-/

namespace GatewayOperator

namespace Shape

/-- Volumes of a pod. -/
def volumeTypes : Types :=
  [("Volume",
     [opt "awsElasticBlockStore" (.record "AWSElasticBlockStoreVolumeSource"),
      opt "azureDisk" (.record "AzureDiskVolumeSource"),
      opt "azureFile" (.record "AzureFileVolumeSource"),
      opt "cephfs" (.record "CephFSVolumeSource"), opt "cinder" (.record "CinderVolumeSource"),
      opt "configMap" (.record "ConfigMapVolumeSource"), opt "csi" (.record "CSIVolumeSource"),
      opt "downwardAPI" (.record "DownwardAPIVolumeSource"),
      opt "emptyDir" (.record "EmptyDirVolumeSource"),
      opt "ephemeral" (.record "EphemeralVolumeSource"), opt "fc" (.record "FCVolumeSource"),
      opt "flexVolume" (.record "FlexVolumeSource"),
      opt "flocker" (.record "FlockerVolumeSource"),
      opt "gcePersistentDisk" (.record "GCEPersistentDiskVolumeSource"),
      opt "gitRepo" (.record "GitRepoVolumeSource"),
      opt "glusterfs" (.record "GlusterfsVolumeSource"),
      opt "hostPath" (.record "HostPathVolumeSource"), opt "iscsi" (.record "ISCSIVolumeSource"),
      reqText "name", opt "nfs" (.record "NFSVolumeSource"),
      opt "persistentVolumeClaim" (.record "PersistentVolumeClaimVolumeSource"),
      opt "photonPersistentDisk" (.record "PhotonPersistentDiskVolumeSource"),
      opt "portworxVolume" (.record "PortworxVolumeSource"),
      opt "projected" (.record "ProjectedVolumeSource"),
      opt "quobyte" (.record "QuobyteVolumeSource"), opt "rbd" (.record "RBDVolumeSource"),
      opt "scaleIO" (.record "ScaleIOVolumeSource"), opt "secret" (.record "SecretVolumeSource"),
      opt "storageos" (.record "StorageOSVolumeSource"),
      opt "vsphereVolume" (.record "VsphereVirtualDiskVolumeSource")]),
   ("AWSElasticBlockStoreVolumeSource",
     [opt "fsType" .text, opt "partition" .int32, opt "readOnly" .flag, reqText "volumeID"]),
   ("AzureDiskVolumeSource",
     [opt "cachingMode" .text, reqText "diskName", reqText "diskURI", opt "fsType" .text,
      opt "kind" .text, opt "readOnly" .flag]),
   ("AzureFileVolumeSource",
     [opt "readOnly" .flag, reqText "secretName", reqText "shareName"]),
   ("CephFSVolumeSource",
     [reqList "monitors" .text, opt "path" .text, opt "readOnly" .flag, opt "secretFile" .text,
      opt "secretRef" (.record "LocalObjectReference"), opt "user" .text]),
   ("CinderVolumeSource",
     [opt "fsType" .text, opt "readOnly" .flag, opt "secretRef" (.record "LocalObjectReference"),
      reqText "volumeID"]),
   ("ConfigMapVolumeSource",
     [opt "defaultMode" .int32, opt "items" (.list (.record "KeyToPath")), opt "name" .text,
      opt "optional" .flag]),
   ("KeyToPath",
     [reqText "key", opt "mode" .int32, reqText "path"]),
   ("CSIVolumeSource",
     [reqText "driver", opt "fsType" .text,
      opt "nodePublishSecretRef" (.record "LocalObjectReference"), opt "readOnly" .flag,
      opt "volumeAttributes" (.dict .text)]),
   ("DownwardAPIVolumeSource",
     [opt "defaultMode" .int32, opt "items" (.list (.record "DownwardAPIVolumeFile"))]),
   ("DownwardAPIVolumeFile",
     [opt "fieldRef" (.record "ObjectFieldSelector"), opt "mode" .int32, reqText "path",
      opt "resourceFieldRef" (.record "ResourceFieldSelector")]),
   ("EmptyDirVolumeSource",
     [opt "medium" .text, opt "sizeLimit" .text]),
   ("EphemeralVolumeSource",
     [opt "volumeClaimTemplate" (.record "PersistentVolumeClaimTemplate")]),
   ("PersistentVolumeClaimTemplate",
     [opt "metadata" (.record "ObjectMeta"), reqRecord "spec" "PersistentVolumeClaimSpec" []]),
   ("PersistentVolumeClaimSpec",
     [opt "accessModes" (.list .text), opt "dataSource" (.record "TypedLocalObjectReference"),
      opt "dataSourceRef" (.record "TypedObjectReference"),
      opt "resources" (.record "VolumeResourceRequirements"),
      opt "selector" (.record "LabelSelector"), opt "storageClassName" .text,
      opt "volumeAttributesClassName" .text, opt "volumeMode" .text, opt "volumeName" .text]),
   ("VolumeResourceRequirements",
     [opt "limits" (.dict .text), opt "requests" (.dict .text)]),
   ("FCVolumeSource",
     [opt "fsType" .text, opt "lun" .int32, opt "readOnly" .flag, opt "targetWWNs" (.list .text),
      opt "wwids" (.list .text)]),
   ("FlexVolumeSource",
     [reqText "driver", opt "fsType" .text, opt "options" (.dict .text), opt "readOnly" .flag,
      opt "secretRef" (.record "LocalObjectReference")]),
   ("FlockerVolumeSource",
     [opt "datasetName" .text, opt "datasetUUID" .text]),
   ("GCEPersistentDiskVolumeSource",
     [opt "fsType" .text, opt "partition" .int32, reqText "pdName", opt "readOnly" .flag]),
   ("GitRepoVolumeSource",
     [opt "directory" .text, reqText "repository", opt "revision" .text]),
   ("GlusterfsVolumeSource",
     [reqText "endpoints", reqText "path", opt "readOnly" .flag]),
   ("HostPathVolumeSource",
     [reqText "path", opt "type" .text]),
   ("ISCSIVolumeSource",
     [opt "chapAuthDiscovery" .flag, opt "chapAuthSession" .flag, opt "fsType" .text,
      opt "initiatorName" .text, reqText "iqn", opt "iscsiInterface" .text, reqInt "lun",
      opt "portals" (.list .text), opt "readOnly" .flag,
      opt "secretRef" (.record "LocalObjectReference"), reqText "targetPortal"]),
   ("NFSVolumeSource",
     [reqText "path", opt "readOnly" .flag, reqText "server"]),
   ("PersistentVolumeClaimVolumeSource",
     [reqText "claimName", opt "readOnly" .flag]),
   ("PhotonPersistentDiskVolumeSource",
     [opt "fsType" .text, reqText "pdID"]),
   ("PortworxVolumeSource",
     [opt "fsType" .text, opt "readOnly" .flag, reqText "volumeID"]),
   ("ProjectedVolumeSource",
     [opt "defaultMode" .int32, opt "sources" (.list (.record "VolumeProjection"))]),
   ("VolumeProjection",
     [opt "clusterTrustBundle" (.record "ClusterTrustBundleProjection"),
      opt "configMap" (.record "ConfigMapProjection"),
      opt "downwardAPI" (.record "DownwardAPIProjection"),
      opt "secret" (.record "SecretProjection"),
      opt "serviceAccountToken" (.record "ServiceAccountTokenProjection")]),
   ("ClusterTrustBundleProjection",
     [opt "labelSelector" (.record "LabelSelector"), opt "name" .text, opt "optional" .flag,
      reqText "path", opt "signerName" .text]),
   ("ConfigMapProjection",
     [opt "items" (.list (.record "KeyToPath")), opt "name" .text, opt "optional" .flag]),
   ("DownwardAPIProjection",
     [opt "items" (.list (.record "DownwardAPIVolumeFile"))]),
   ("SecretProjection",
     [opt "items" (.list (.record "KeyToPath")), opt "name" .text, opt "optional" .flag]),
   ("ServiceAccountTokenProjection",
     [opt "audience" .text, opt "expirationSeconds" .int64, reqText "path"]),
   ("QuobyteVolumeSource",
     [opt "group" .text, opt "readOnly" .flag, reqText "registry", opt "tenant" .text,
      opt "user" .text, reqText "volume"]),
   ("RBDVolumeSource",
     [opt "fsType" .text, reqText "image", opt "keyring" .text, reqList "monitors" .text,
      opt "pool" .text, opt "readOnly" .flag, opt "secretRef" (.record "LocalObjectReference"),
      opt "user" .text]),
   ("ScaleIOVolumeSource",
     [opt "fsType" .text, reqText "gateway", opt "protectionDomain" .text, opt "readOnly" .flag,
      reqRecord "secretRef" "LocalObjectReference" [], opt "sslEnabled" .flag,
      opt "storageMode" .text, opt "storagePool" .text, reqText "system", opt "volumeName" .text]),
   ("SecretVolumeSource",
     [opt "defaultMode" .int32, opt "items" (.list (.record "KeyToPath")), opt "optional" .flag,
      opt "secretName" .text]),
   ("StorageOSVolumeSource",
     [opt "fsType" .text, opt "readOnly" .flag, opt "secretRef" (.record "LocalObjectReference"),
      opt "volumeName" .text, opt "volumeNamespace" .text]),
   ("VsphereVirtualDiskVolumeSource",
     [opt "fsType" .text, opt "storagePolicyID" .text, opt "storagePolicyName" .text,
      reqText "volumePath"])]

end Shape

end GatewayOperator
