/-!
# The vocabulary of scripts

The names by which scripts know metadata, resource attributes and object
classes.  Each table pairs the symbol that scripts use with the text that media
objects use; only the metadata keys listed here are read back from scripts.
-/

namespace MediaImport.Media

/-- A symbol that scripts see and the text it stands for. -/
structure Symbol where
  name : String
  text : String
  deriving DecidableEq

namespace MetadataKey

def title : String := "dc:title"

def description : String := "dc:description"

def trackNumber : String := "upnp:originalTrackNumber"

/-- The metadata keys, in the order in which they are read. -/
def all : List Symbol := [
  ⟨"M_TITLE", title⟩,
  ⟨"M_ARTIST", "upnp:artist"⟩,
  ⟨"M_ALBUM", "upnp:album"⟩,
  ⟨"M_DATE", "dc:date"⟩,
  ⟨"M_UPNP_DATE", "upnp:date"⟩,
  ⟨"M_GENRE", "upnp:genre"⟩,
  ⟨"M_DESCRIPTION", description⟩,
  ⟨"M_LONGDESCRIPTION", "upnp:longDescription"⟩,
  ⟨"M_PUBLISHER", "dc:publisher"⟩,
  ⟨"M_RATING", "upnp:rating"⟩,
  ⟨"M_ACTOR", "upnp:actor"⟩,
  ⟨"M_DIRECTOR", "upnp:director"⟩,
  ⟨"M_PRODUCER", "upnp:producer"⟩,
  ⟨"M_AUTHOR", "upnp:author"⟩,
  ⟨"M_TRACKNUMBER", trackNumber⟩,
  ⟨"M_ALBUMARTIST", "upnp:albumArtist"⟩,
  ⟨"M_REGION", "upnp:region"⟩,
  ⟨"M_CREATOR", "dc:creator"⟩,
  ⟨"M_COMPOSER", "upnp:composer"⟩,
  ⟨"M_CONDUCTOR", "upnp:conductor"⟩,
  ⟨"M_ORCHESTRA", "upnp:orchestra"⟩]

end MetadataKey

namespace ResourceKey

def protocolInfo : String := "protocolInfo"

/-- The resource attributes. -/
def all : List Symbol := [
  ⟨"R_SIZE", "size"⟩,
  ⟨"R_DURATION", "duration"⟩,
  ⟨"R_BITRATE", "bitrate"⟩,
  ⟨"R_SAMPLEFREQUENCY", "sampleFrequency"⟩,
  ⟨"R_NRAUDIOCHANNELS", "nrAudioChannels"⟩,
  ⟨"R_RESOLUTION", "resolution"⟩,
  ⟨"R_COLORDEPTH", "colorDepth"⟩,
  ⟨"R_PROTOCOLINFO", protocolInfo⟩,
  ⟨"R_RESOURCE_FILE", "resFile"⟩,
  ⟨"R_FANART_OBJ_ID", "fanArtObject"⟩,
  ⟨"R_FANART_RES_ID", "fanArtResource"⟩,
  ⟨"R_BITS_PER_SAMPLE", "bitsPerSample"⟩,
  ⟨"R_LANGUAGE", "language"⟩,
  ⟨"R_AUDIOCODEC", "audioCodec"⟩,
  ⟨"R_VIDEOCODEC", "videoCodec"⟩]

end ResourceKey

/-- The object classes. -/
def UpnpClass.all : List Symbol := [
  ⟨"UPNP_CLASS_CONTAINER_MUSIC_ALBUM", "object.container.album.musicAlbum"⟩,
  ⟨"UPNP_CLASS_CONTAINER_MUSIC_ARTIST", "object.container.person.musicArtist"⟩,
  ⟨"UPNP_CLASS_CONTAINER_MUSIC_GENRE", "object.container.genre.musicGenre"⟩,
  ⟨"UPNP_CLASS_CONTAINER_MUSIC_COMPOSER", "object.container.person.musicComposer"⟩,
  ⟨"UPNP_CLASS_CONTAINER_MUSIC_CONDUCTOR", "object.container.person.musicConductor"⟩,
  ⟨"UPNP_CLASS_CONTAINER_MUSIC_ORCHESTRA", "object.container.person.musicOrchestra"⟩,
  ⟨"UPNP_CLASS_CONTAINER", "object.container"⟩,
  ⟨"UPNP_CLASS_ITEM", "object.item"⟩,
  ⟨"UPNP_CLASS_ITEM_MUSIC_TRACK", "object.item.audioItem.musicTrack"⟩,
  ⟨"UPNP_CLASS_CONTAINER_ITEM_VIDEO", "object.item.videoItem"⟩,
  ⟨"UPNP_CLASS_CONTAINER_ITEM_IMAGE", "object.item.imageItem"⟩,
  ⟨"UPNP_CLASS_PLAYLIST_CONTAINER", "object.container.playlistContainer"⟩]

/-- The transport of a link whose script names none. -/
def defaultProtocol : String := "http-get"

/-- The protocol information of a resource; an unknown type of contents is
written as a star. -/
def protocolInfo (mimeType protocol : String) : String :=
  protocol ++ ":*:" ++ (if mimeType.isEmpty then "*" else mimeType) ++ ":*"

end MediaImport.Media
