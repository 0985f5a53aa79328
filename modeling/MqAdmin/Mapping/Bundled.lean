import MqAdmin.Mapping.Table

namespace MqAdmin.Mapping.Bundled

def authinfo : QualifierTable where
  requestKeys := .ofAscending [
    ("admin_required", "ADOPTCTX"), ("authinfo_name", "AUTHINFO"), ("authinfo_type", "AUTHTYPE"),
    ("check_client", "CHCKCLNT"), ("check_local", "CHCKLOCL"), ("connection_name", "CONNAME"),
    ("description", "DESCR")]
  requestValues := .ofAscending [
    ("ADOPTCTX", .ofAscending [("no", "NO"), ("yes", "YES")]),
    ("AUTHTYPE", .ofAscending [
      ("crl_ldap", "CRLLDAP"), ("idpw_ldap", "IDPWLDAP"), ("idpw_os", "IDPWOS"),
      ("ocsp", "OCSP")]),
    ("CHCKCLNT", .ofAscending [
      ("none", "NONE"), ("optional", "OPTIONAL"), ("required", "REQUIRED"),
      ("required_admin", "REQDADM")]),
    ("CHCKLOCL", .ofAscending [
      ("none", "NONE"), ("optional", "OPTIONAL"), ("required", "REQUIRED"),
      ("required_admin", "REQDADM")])]
  requestPairs := .ofAscending [
    ("noreplace", .ofAscending [("yes", ⟨"REPLACE", "NO"⟩)]),
    ("replace", .ofAscending [("no", ⟨"REPLACE", "NO"⟩), ("yes", ⟨"REPLACE", "YES"⟩)])]
  responseKeys := .ofAscending [
    ("ADOPTCTX", "admin_required"), ("AUTHINFO", "authinfo_name"), ("AUTHTYPE", "authinfo_type"),
    ("CHCKCLNT", "check_client"), ("CHCKLOCL", "check_local"), ("CONNAME", "connection_name"),
    ("DESCR", "description")]
  responseValues := .ofAscending [
    ("ADOPTCTX", .ofAscending [("NO", "no"), ("YES", "yes")]),
    ("AUTHTYPE", .ofAscending [
      ("CRLLDAP", "crl_ldap"), ("IDPWLDAP", "idpw_ldap"), ("IDPWOS", "idpw_os"),
      ("OCSP", "ocsp")]),
    ("CHCKCLNT", .ofAscending [
      ("NONE", "none"), ("OPTIONAL", "optional"), ("REQDADM", "required_admin"),
      ("REQUIRED", "required")]),
    ("CHCKLOCL", .ofAscending [
      ("NONE", "none"), ("OPTIONAL", "optional"), ("REQDADM", "required_admin"),
      ("REQUIRED", "required")])]

def buffpool : QualifierTable where
  requestKeys := .ofAscending [
    ("buffer_pool_id", "BUFFPOOL"), ("buffers", "BUFFERS"), ("command_scope", "CMDSCOPE"),
    ("location", "LOCATION"), ("page_class", "PAGECLAS")]
  requestValues := .ofAscending [
    ("LOCATION", .ofAscending [("above", "ABOVE"), ("below", "BELOW")]),
    ("PAGECLAS", .ofAscending [("4kb", "4KB"), ("fixed_4kb", "FIXED4KB")])]
  responseKeys := .ofAscending [
    ("BUFFERS", "buffers"), ("BUFFPOOL", "buffer_pool_id"), ("CMDSCOPE", "command_scope"),
    ("LOCATION", "location"), ("PAGECLAS", "page_class")]
  responseValues := .ofAscending [
    ("LOCATION", .ofAscending [("ABOVE", "above"), ("BELOW", "below")]),
    ("PAGECLAS", .ofAscending [("4KB", "4kb"), ("FIXED4KB", "fixed_4kb")])]

def cfstruct : QualifierTable where
  requestKeys := .ofAscending [
    ("automatic_recovery", "RECAUTO"), ("cf_connection_loss", "CFCONLOS"),
    ("cf_level", "CFLEVEL"), ("cfstruct_name", "CFSTRUCT"), ("command_scope", "CMDSCOPE"),
    ("data_set_buffers", "DSBUFS"), ("data_set_expand", "DSEXPAND"),
    ("data_set_group", "DSGROUP"), ("description", "DESCR"), ("offload", "OFFLOAD"),
    ("recovery", "RECOVER")]
  requestValues := .ofAscending [
    ("CFCONLOS", .ofAscending [
      ("as_queue_manager", "ASQMGR"), ("terminate", "TERMINATE"), ("tolerate", "TOLERATE")]),
    ("DSEXPAND", .ofAscending [("default", "DEFAULT"), ("no", "NO"), ("yes", "YES")]),
    ("OFFLOAD", .ofAscending [("both", "BOTH"), ("db2", "DB2"), ("smds", "SMDS")]),
    ("RECAUTO", .ofAscending [("no", "NO"), ("yes", "YES")]),
    ("RECOVER", .ofAscending [("no", "NO"), ("yes", "YES")])]
  requestPairs := .ofAscending [
    ("noreplace", .ofAscending [("yes", ⟨"REPLACE", "NO"⟩)]),
    ("replace", .ofAscending [("no", ⟨"REPLACE", "NO"⟩), ("yes", ⟨"REPLACE", "YES"⟩)])]
  responseKeys := .ofAscending [
    ("ALTDATE", "alteration_date"), ("ALTTIME", "alteration_time"),
    ("CFCONLOS", "cf_connection_loss"), ("CFLEVEL", "cf_level"), ("CFSTRUCT", "cfstruct_name"),
    ("CMDSCOPE", "command_scope"), ("DESCR", "description"), ("DSBUFS", "data_set_buffers"),
    ("DSEXPAND", "data_set_expand"), ("DSGROUP", "data_set_group"), ("OFFLOAD", "offload"),
    ("RECAUTO", "automatic_recovery"), ("RECOVER", "recovery")]
  responseValues := .ofAscending [
    ("CFCONLOS", .ofAscending [
      ("ASQMGR", "as_queue_manager"), ("TERMINATE", "terminate"), ("TOLERATE", "tolerate")]),
    ("DSEXPAND", .ofAscending [("DEFAULT", "default"), ("NO", "no"), ("YES", "yes")]),
    ("OFFLOAD", .ofAscending [("BOTH", "both"), ("DB2", "db2"), ("SMDS", "smds")]),
    ("RECAUTO", .ofAscending [("NO", "no"), ("YES", "yes")]),
    ("RECOVER", .ofAscending [("NO", "no"), ("YES", "yes")])]

def channel : QualifierTable where
  requestKeys := .ofAscending [
    ("alteration_date", "ALTDATE"), ("alteration_time", "ALTTIME"), ("batch_size", "BATCHSZ"),
    ("channel_name", "CHANNEL"), ("channel_type", "CHLTYPE"), ("connection_name", "CONNAME"),
    ("description", "DESCR"), ("disconnect_interval", "DISCINT"), ("heartbeat_interval", "HBINT"),
    ("max_instances", "MAXINST"), ("max_instances_per_client", "MAXINSTC"),
    ("max_message_length", "MAXMSGL"), ("mca_user_id", "MCAUSER"),
    ("queue_manager_name", "QMNAME"), ("ssl_cipher_spec", "SSLCIPH"),
    ("ssl_client_auth", "SSLCAUTH"), ("transmission_queue_name", "XMITQ"),
    ("transport_type", "TRPTYPE")]
  requestValues := .ofAscending [
    ("CHLTYPE", .ofAscending [
      ("CLNTCONN", "CLNTCONN"), ("CLUSRCVR", "CLUSRCVR"), ("CLUSSDR", "CLUSSDR"),
      ("RCVR", "RCVR"), ("RQSTR", "RQSTR"), ("SDR", "SDR"), ("SVR", "SVR"),
      ("SVRCONN", "SVRCONN"), ("client_connection", "CLNTCONN"), ("cluster_receiver", "CLUSRCVR"),
      ("cluster_sender", "CLUSSDR"), ("receiver", "RCVR"), ("requester", "RQSTR"),
      ("sender", "SDR"), ("server", "SVR"), ("server_connection", "SVRCONN")]),
    ("SSLCAUTH", .ofAscending [("optional", "OPTIONAL"), ("required", "REQUIRED")]),
    ("TRPTYPE", .ofAscending [
      ("LU62", "LU62"), ("TCP", "TCP"), ("lu62", "LU62"), ("tcp", "TCP")])]
  requestPairs := .ofAscending [
    ("noreplace", .ofAscending [("yes", ⟨"REPLACE", "NO"⟩)]),
    ("replace", .ofAscending [("no", ⟨"REPLACE", "NO"⟩), ("yes", ⟨"REPLACE", "YES"⟩)])]
  responseKeys := .ofAscending [
    ("ALTDATE", "alteration_date"), ("ALTTIME", "alteration_time"), ("BATCHSZ", "batch_size"),
    ("CHANNEL", "channel_name"), ("CHLTYPE", "channel_type"), ("CONNAME", "connection_name"),
    ("DESCR", "description"), ("DISCINT", "disconnect_interval"), ("HBINT", "heartbeat_interval"),
    ("MAXINST", "max_instances"), ("MAXINSTC", "max_instances_per_client"),
    ("MAXMSGL", "max_message_length"), ("MCAUSER", "mca_user_id"),
    ("QMNAME", "queue_manager_name"), ("SSLCAUTH", "ssl_client_auth"),
    ("SSLCIPH", "ssl_cipher_spec"), ("TRPTYPE", "transport_type"),
    ("XMITQ", "transmission_queue_name")]
  responseValues := .ofAscending [
    ("CHLTYPE", .ofAscending [
      ("CLNTCONN", "client_connection"), ("CLUSRCVR", "cluster_receiver"),
      ("CLUSSDR", "cluster_sender"), ("RCVR", "receiver"), ("RQSTR", "requester"),
      ("SDR", "sender"), ("SVR", "server"), ("SVRCONN", "server_connection")]),
    ("SSLCAUTH", .ofAscending [("OPTIONAL", "optional"), ("REQUIRED", "required")]),
    ("TRPTYPE", .ofAscending [("LU62", "lu62"), ("TCP", "tcp")])]

def chinit : QualifierTable where
  requestKeys := .ofAscending [
    ("command_scope", "CMDSCOPE"), ("environment_parameters", "ENVPARM"), ("status", "STATUS")]
  responseKeys := .ofAscending [
    ("CMDSCOPE", "command_scope"), ("ENVPARM", "environment_parameters"), ("STATUS", "status")]

def chstatus : QualifierTable where
  requestKeys := .ofAscending [
    ("bytes_received", "BYTSRCVD"), ("bytes_sent", "BYTSSENT"), ("channel_name", "CHANNEL"),
    ("channel_start_date", "CHSTADA"), ("channel_start_time", "CHSTATI"),
    ("channel_status", "STATUS"), ("channel_type", "CHLTYPE"), ("connection_name", "CONNAME"),
    ("current_shared_conversations", "CURSHCNV"), ("messages", "MSGS"), ("monitoring", "MONCHL"),
    ("status_type", "STATUS_TYPE"), ("substate", "SUBSTATE"),
    ("transmission_queue_name", "XMITQ")]
  requestValues := .ofAscending [
    ("STATUS", .ofAscending [
      ("binding", "BINDING"), ("inactive", "INACTIVE"), ("paused", "PAUSED"),
      ("retrying", "RETRYING"), ("running", "RUNNING"), ("starting", "STARTING"),
      ("stopped", "STOPPED"), ("stopping", "STOPPING")])]
  responseKeys := .ofAscending [
    ("BYTSRCVD", "bytes_received"), ("BYTSSENT", "bytes_sent"), ("CHANNEL", "channel_name"),
    ("CHLTYPE", "channel_type"), ("CHSTADA", "channel_start_date"),
    ("CHSTATI", "channel_start_time"), ("CONNAME", "connection_name"),
    ("CURSHCNV", "current_shared_conversations"), ("MONCHL", "monitoring"), ("MSGS", "messages"),
    ("STATUS", "channel_status"), ("STATUS_TYPE", "status_type"), ("SUBSTATE", "substate"),
    ("XMITQ", "transmission_queue_name")]
  responseValues := .ofAscending [
    ("STATUS", .ofAscending [
      ("BINDING", "binding"), ("INACTIVE", "inactive"), ("PAUSED", "paused"),
      ("RETRYING", "retrying"), ("RUNNING", "running"), ("STARTING", "starting"),
      ("STOPPED", "stopped"), ("STOPPING", "stopping")])]

def cmdserv : QualifierTable where
  requestKeys := .ofAscending [("status", "STATUS")]
  requestValues := .ofAscending [
    ("STATUS", .ofAscending [
      ("binding", "BINDING"), ("inactive", "INACTIVE"), ("paused", "PAUSED"),
      ("retrying", "RETRYING"), ("running", "RUNNING"), ("starting", "STARTING"),
      ("stopped", "STOPPED"), ("stopping", "STOPPING")])]
  responseKeys := .ofAscending [("STATUS", "status")]
  responseValues := .ofAscending [
    ("STATUS", .ofAscending [
      ("BINDING", "binding"), ("INACTIVE", "inactive"), ("PAUSED", "paused"),
      ("RETRYING", "retrying"), ("RUNNING", "running"), ("STARTING", "starting"),
      ("STOPPED", "stopped"), ("STOPPING", "stopping")])]

def comminfo : QualifierTable where
  requestKeys := .ofAscending [
    ("bridge", "BRIDGE"), ("comminfo_name", "COMMINFO"), ("comminfo_type", "TYPE"),
    ("communication_event", "COMMEV"), ("description", "DESCR"), ("encoding", "ENCODING"),
    ("group_address", "GRPADDR"), ("message_history", "MSGHIST"), ("monitor_interval", "MONINT"),
    ("multicast_heartbeat", "MCHBINT"), ("multicast_property_control", "MCPROP"),
    ("new_subscriber_history", "NSUBHIST"), ("port", "PORT")]
  requestValues := .ofAscending [
    ("BRIDGE", .ofAscending [("disabled", "DISABLED"), ("enabled", "ENABLED")]),
    ("COMMEV", .ofAscending [
      ("disabled", "DISABLED"), ("enabled", "ENABLED"), ("exception", "EXCEPTION")]),
    ("ENCODING", .ofAscending [
      ("as_published", "AS_PUBLISHED"), ("normal", "NORMAL"), ("reversed", "REVERSED"),
      ("s390", "S390"), ("tns", "TNS")]),
    ("MCPROP", .ofAscending [
      ("all", "ALL"), ("compat", "COMPAT"), ("none", "NONE"), ("reply", "REPLY"),
      ("user", "USER")]),
    ("NSUBHIST", .ofAscending [("all", "ALL"), ("none", "NONE")]),
    ("TYPE", .ofAscending [("multicast", "MULTICAST")])]
  requestPairs := .ofAscending [
    ("noreplace", .ofAscending [("yes", ⟨"REPLACE", "NO"⟩)]),
    ("replace", .ofAscending [("no", ⟨"REPLACE", "NO"⟩), ("yes", ⟨"REPLACE", "YES"⟩)])]
  responseKeys := .ofAscending [
    ("ALTDATE", "alteration_date"), ("ALTTIME", "alteration_time"), ("BRIDGE", "bridge"),
    ("COMMEV", "communication_event"), ("COMMINFO", "comminfo_name"), ("DESCR", "description"),
    ("ENCODING", "encoding"), ("GRPADDR", "group_address"), ("MCHBINT", "multicast_heartbeat"),
    ("MCPROP", "multicast_property_control"), ("MONINT", "monitor_interval"),
    ("MSGHIST", "message_history"), ("NSUBHIST", "new_subscriber_history"), ("PORT", "port"),
    ("TYPE", "comminfo_type")]
  responseValues := .ofAscending [
    ("BRIDGE", .ofAscending [("DISABLED", "disabled"), ("ENABLED", "enabled")]),
    ("COMMEV", .ofAscending [
      ("DISABLED", "disabled"), ("ENABLED", "enabled"), ("EXCEPTION", "exception")]),
    ("ENCODING", .ofAscending [
      ("AS_PUBLISHED", "as_published"), ("NORMAL", "normal"), ("REVERSED", "reversed"),
      ("S390", "s390"), ("TNS", "tns")]),
    ("MCPROP", .ofAscending [
      ("ALL", "all"), ("COMPAT", "compat"), ("NONE", "none"), ("REPLY", "reply"),
      ("USER", "user")]),
    ("NSUBHIST", .ofAscending [("ALL", "all"), ("NONE", "none")]),
    ("TYPE", .ofAscending [("MULTICAST", "multicast")])]

def conn : QualifierTable where
  requestKeys := .ofAscending [
    ("application_tag", "APPLTAG"), ("application_type", "APPLTYPE"), ("channel_name", "CHANNEL"),
    ("connection_id", "CONN"), ("connection_info_type", "TYPE"), ("connection_name", "CONNAME"),
    ("handle_state", "HSTATE"), ("object_name", "OBJNAME"), ("object_type", "OBJTYPE"),
    ("open_options", "OPENOPTS"), ("process_id", "PID"), ("user_id", "USERID")]
  requestValues := .ofAscending [
    ("HSTATE", .ofAscending [("active", "ACTIVE"), ("inactive", "INACTIVE")]),
    ("OBJTYPE", .ofAscending [("queue", "QUEUE"), ("queue_manager", "QMGR"), ("topic", "TOPIC")]),
    ("TYPE", .ofAscending [("all", "ALL"), ("connection", "CONN"), ("handle", "HANDLE")])]
  responseKeys := .ofAscending [
    ("APPLTAG", "application_tag"), ("APPLTYPE", "application_type"), ("CHANNEL", "channel_name"),
    ("CONN", "connection_id"), ("CONNAME", "connection_name"), ("HSTATE", "handle_state"),
    ("OBJNAME", "object_name"), ("OBJTYPE", "object_type"), ("OPENOPTS", "open_options"),
    ("PID", "process_id"), ("TYPE", "connection_info_type"), ("USERID", "user_id")]
  responseValues := .ofAscending [
    ("HSTATE", .ofAscending [("ACTIVE", "active"), ("INACTIVE", "inactive")]),
    ("OBJTYPE", .ofAscending [("QMGR", "queue_manager"), ("QUEUE", "queue"), ("TOPIC", "topic")]),
    ("TYPE", .ofAscending [("ALL", "all"), ("CONN", "connection"), ("HANDLE", "handle")])]

def listener : QualifierTable where
  requestKeys := .ofAscending [
    ("alteration_date", "ALTDATE"), ("alteration_time", "ALTTIME"), ("backlog", "BACKLOG"),
    ("description", "DESCR"), ("ip_address", "IPADDR"), ("listener_name", "LISTENER"),
    ("port", "PORT"), ("start_mode", "CONTROL"), ("transport_type", "TRPTYPE")]
  requestValues := .ofAscending [
    ("CONTROL", .ofAscending [
      ("MANUAL", "MANUAL"), ("QMGR", "QMGR"), ("STARTONLY", "STARTONLY"), ("manual", "MANUAL"),
      ("queue_manager", "QMGR"), ("queue_manager_start", "STARTONLY")]),
    ("TRPTYPE", .ofAscending [
      ("LU62", "LU62"), ("TCP", "TCP"), ("lu62", "LU62"), ("tcp", "TCP")])]
  requestPairs := .ofAscending [
    ("noreplace", .ofAscending [("yes", ⟨"REPLACE", "NO"⟩)]),
    ("replace", .ofAscending [("no", ⟨"REPLACE", "NO"⟩), ("yes", ⟨"REPLACE", "YES"⟩)])]
  responseKeys := .ofAscending [
    ("ALTDATE", "alteration_date"), ("ALTTIME", "alteration_time"), ("BACKLOG", "backlog"),
    ("CONTROL", "start_mode"), ("DESCR", "description"), ("IPADDR", "ip_address"),
    ("LISTENER", "listener_name"), ("PORT", "port"), ("TRPTYPE", "transport_type")]
  responseValues := .ofAscending [
    ("CONTROL", .ofAscending [
      ("MANUAL", "manual"), ("QMGR", "queue_manager"), ("STARTONLY", "queue_manager_start")]),
    ("TRPTYPE", .ofAscending [("LU62", "lu62"), ("TCP", "tcp")])]

def log : QualifierTable where
  requestKeys := .ofAscending [
    ("command_scope", "CMDSCOPE"), ("copy", "COPY"), ("data_set_name", "DSNAME")]
  responseKeys := .ofAscending [
    ("CMDSCOPE", "command_scope"), ("COPY", "copy"), ("DSNAME", "data_set_name")]

def lsstatus : QualifierTable where
  requestKeys := .ofAscending [
    ("ip_address", "IPADDR"), ("listener_name", "LISTENER"), ("port", "PORT"),
    ("process_id", "PID"), ("start_date", "STARTDA"), ("start_time", "STARTTI"),
    ("status", "STATUS"), ("transport_type", "TRPTYPE")]
  requestValues := .ofAscending [
    ("STATUS", .ofAscending [
      ("binding", "BINDING"), ("inactive", "INACTIVE"), ("paused", "PAUSED"),
      ("retrying", "RETRYING"), ("running", "RUNNING"), ("starting", "STARTING"),
      ("stopped", "STOPPED"), ("stopping", "STOPPING")])]
  responseKeys := .ofAscending [
    ("IPADDR", "ip_address"), ("LISTENER", "listener_name"), ("PID", "process_id"),
    ("PORT", "port"), ("STARTDA", "start_date"), ("STARTTI", "start_time"), ("STATUS", "status"),
    ("TRPTYPE", "transport_type")]
  responseValues := .ofAscending [
    ("STATUS", .ofAscending [
      ("BINDING", "binding"), ("INACTIVE", "inactive"), ("PAUSED", "paused"),
      ("RETRYING", "retrying"), ("RUNNING", "running"), ("STARTING", "starting"),
      ("STOPPED", "stopped"), ("STOPPING", "stopping")])]

def maxsmsgs : QualifierTable where
  requestKeys := .ofAscending [("command_scope", "CMDSCOPE"), ("max_shared_messages", "MAXSMSGS")]
  responseKeys := .ofAscending [
    ("CMDSCOPE", "command_scope"), ("MAXSMSGS", "max_shared_messages")]

def namelist : QualifierTable where
  requestKeys := .ofAscending [
    ("description", "DESCR"), ("name_count", "NAMCOUNT"), ("namelist_name", "NAMELIST"),
    ("namelist_type", "NLTYPE"), ("names", "NAMES")]
  requestValues := .ofAscending [
    ("NLTYPE", .ofAscending [
      ("authinfo", "AUTHINFO"), ("cluster", "CLUSTER"), ("none", "NONE"), ("queue", "QUEUE")])]
  requestPairs := .ofAscending [
    ("noreplace", .ofAscending [("yes", ⟨"REPLACE", "NO"⟩)]),
    ("replace", .ofAscending [("no", ⟨"REPLACE", "NO"⟩), ("yes", ⟨"REPLACE", "YES"⟩)])]
  responseKeys := .ofAscending [
    ("DESCR", "description"), ("NAMCOUNT", "name_count"), ("NAMELIST", "namelist_name"),
    ("NAMES", "names"), ("NLTYPE", "namelist_type")]
  responseValues := .ofAscending [
    ("NLTYPE", .ofAscending [
      ("AUTHINFO", "authinfo"), ("CLUSTER", "cluster"), ("NONE", "none"), ("QUEUE", "queue")])]

def process : QualifierTable where
  requestKeys := .ofAscending [
    ("application_id", "APPLICID"), ("application_type", "APPLTYPE"), ("description", "DESCR"),
    ("environment_data", "ENVRDATA"), ("process_name", "PROCESS"), ("user_data", "USERDATA")]
  requestPairs := .ofAscending [
    ("noreplace", .ofAscending [("yes", ⟨"REPLACE", "NO"⟩)]),
    ("replace", .ofAscending [("no", ⟨"REPLACE", "NO"⟩), ("yes", ⟨"REPLACE", "YES"⟩)])]
  responseKeys := .ofAscending [
    ("APPLICID", "application_id"), ("APPLTYPE", "application_type"), ("DESCR", "description"),
    ("ENVRDATA", "environment_data"), ("PROCESS", "process_name"), ("USERDATA", "user_data")]

def psid : QualifierTable where
  requestKeys := .ofAscending [
    ("buffer_pool_id", "BUFFPOOL"), ("command_scope", "CMDSCOPE"), ("data_set_name", "DSN"),
    ("expand", "EXPAND"), ("page_set_id", "PSID")]
  requestValues := .ofAscending [
    ("EXPAND", .ofAscending [("none", "NONE"), ("system", "SYSTEM"), ("user", "USER")])]
  responseKeys := .ofAscending [
    ("BUFFPOOL", "buffer_pool_id"), ("CMDSCOPE", "command_scope"), ("DSN", "data_set_name"),
    ("EXPAND", "expand"), ("PSID", "page_set_id")]
  responseValues := .ofAscending [
    ("EXPAND", .ofAscending [("NONE", "none"), ("SYSTEM", "system"), ("USER", "user")])]

def qmgr : QualifierTable where
  requestKeys := .ofAscending [
    ("alteration_date", "ALTDATE"), ("alteration_time", "ALTTIME"),
    ("channel_auth_records", "CHLAUTH"), ("command_level", "CMDLEVEL"),
    ("connection_auth", "CONNAUTH"), ("dead_letter_queue_name", "DEADQ"),
    ("default_transmission_queue_name", "DEFXMITQ"), ("description", "DESCR"),
    ("max_handles", "MAXHANDS"), ("max_message_length", "MAXMSGL"), ("monitoring_queue", "MONQ"),
    ("performance_events", "PERFMEV"), ("platform", "PLATFORM"), ("queue_manager_name", "QMNAME"),
    ("statistics_queue", "STATQ")]
  requestValues := .ofAscending [
    ("CHLAUTH", .ofAscending [("disabled", "DISABLED"), ("enabled", "ENABLED")]),
    ("MONQ", .ofAscending [
      ("high", "HIGH"), ("low", "LOW"), ("medium", "MEDIUM"), ("none", "NONE"), ("off", "OFF")]),
    ("PERFMEV", .ofAscending [("disabled", "DISABLED"), ("enabled", "ENABLED")]),
    ("STATQ", .ofAscending [("none", "NONE"), ("off", "OFF"), ("on", "ON")])]
  responseKeys := .ofAscending [
    ("ALTDATE", "alteration_date"), ("ALTTIME", "alteration_time"),
    ("CHLAUTH", "channel_auth_records"), ("CMDLEVEL", "command_level"),
    ("CONNAUTH", "connection_auth"), ("DEADQ", "dead_letter_queue_name"),
    ("DEFXMITQ", "default_transmission_queue_name"), ("DESCR", "description"),
    ("MAXHANDS", "max_handles"), ("MAXMSGL", "max_message_length"), ("MONQ", "monitoring_queue"),
    ("PERFMEV", "performance_events"), ("PLATFORM", "platform"), ("QMNAME", "queue_manager_name"),
    ("STATQ", "statistics_queue")]
  responseValues := .ofAscending [
    ("CHLAUTH", .ofAscending [("DISABLED", "disabled"), ("ENABLED", "enabled")]),
    ("MONQ", .ofAscending [
      ("HIGH", "high"), ("LOW", "low"), ("MEDIUM", "medium"), ("NONE", "none"), ("OFF", "off")]),
    ("PERFMEV", .ofAscending [("DISABLED", "disabled"), ("ENABLED", "enabled")]),
    ("STATQ", .ofAscending [("NONE", "none"), ("OFF", "off"), ("ON", "on")])]

def qmstatus : QualifierTable where
  requestKeys := .ofAscending [
    ("channel_initiator_status", "CHINIT"), ("command_server_status", "CMDSERV"),
    ("connection_count", "CONNS"), ("ha_status", "HASTATUS"), ("installation_name", "INSTNAME"),
    ("queue_manager_name", "QMNAME"), ("start_date", "STARTDA"), ("start_time", "STARTTI"),
    ("status", "STATUS")]
  requestValues := .ofAscending [
    ("CHINIT", .ofAscending [
      ("binding", "BINDING"), ("inactive", "INACTIVE"), ("paused", "PAUSED"),
      ("retrying", "RETRYING"), ("running", "RUNNING"), ("starting", "STARTING"),
      ("stopped", "STOPPED"), ("stopping", "STOPPING")]),
    ("CMDSERV", .ofAscending [
      ("binding", "BINDING"), ("inactive", "INACTIVE"), ("paused", "PAUSED"),
      ("retrying", "RETRYING"), ("running", "RUNNING"), ("starting", "STARTING"),
      ("stopped", "STOPPED"), ("stopping", "STOPPING")]),
    ("STATUS", .ofAscending [
      ("binding", "BINDING"), ("inactive", "INACTIVE"), ("paused", "PAUSED"),
      ("retrying", "RETRYING"), ("running", "RUNNING"), ("starting", "STARTING"),
      ("stopped", "STOPPED"), ("stopping", "STOPPING")])]
  responseKeys := .ofAscending [
    ("CHINIT", "channel_initiator_status"), ("CMDSERV", "command_server_status"),
    ("CONNS", "connection_count"), ("HASTATUS", "ha_status"), ("INSTNAME", "installation_name"),
    ("QMNAME", "queue_manager_name"), ("STARTDA", "start_date"), ("STARTTI", "start_time"),
    ("STATUS", "status")]
  responseValues := .ofAscending [
    ("CHINIT", .ofAscending [
      ("BINDING", "binding"), ("INACTIVE", "inactive"), ("PAUSED", "paused"),
      ("RETRYING", "retrying"), ("RUNNING", "running"), ("STARTING", "starting"),
      ("STOPPED", "stopped"), ("STOPPING", "stopping")]),
    ("CMDSERV", .ofAscending [
      ("BINDING", "binding"), ("INACTIVE", "inactive"), ("PAUSED", "paused"),
      ("RETRYING", "retrying"), ("RUNNING", "running"), ("STARTING", "starting"),
      ("STOPPED", "stopped"), ("STOPPING", "stopping")]),
    ("STATUS", .ofAscending [
      ("BINDING", "binding"), ("INACTIVE", "inactive"), ("PAUSED", "paused"),
      ("RETRYING", "retrying"), ("RUNNING", "running"), ("STARTING", "starting"),
      ("STOPPED", "stopped"), ("STOPPING", "stopping")])]

def qstatus : QualifierTable where
  requestKeys := .ofAscending [
    ("application_tag", "APPLTAG"), ("channel_name", "CHANNEL"), ("connection_name", "CONNAME"),
    ("current_queue_depth", "CURDEPTH"), ("last_get_date", "LGETDATE"),
    ("last_get_time", "LGETTIME"), ("last_put_date", "LPUTDATE"), ("last_put_time", "LPUTTIME"),
    ("monitoring", "MONQ"), ("oldest_message_age", "MSGAGE"), ("open_input_count", "IPPROCS"),
    ("open_output_count", "OPPROCS"), ("process_id", "PID"), ("queue_name", "QUEUE"),
    ("queue_time_indicator", "QTIME"), ("type", "TYPE"), ("uncommitted_messages", "UNCOM"),
    ("user_id", "USERID")]
  requestValues := .ofAscending [
    ("TYPE", .ofAscending [("handle", "HANDLE"), ("queue", "QUEUE")])]
  responseKeys := .ofAscending [
    ("APPLTAG", "application_tag"), ("CHANNEL", "channel_name"), ("CONNAME", "connection_name"),
    ("CURDEPTH", "current_queue_depth"), ("IPPROCS", "open_input_count"),
    ("LGETDATE", "last_get_date"), ("LGETTIME", "last_get_time"), ("LPUTDATE", "last_put_date"),
    ("LPUTTIME", "last_put_time"), ("MONQ", "monitoring"), ("MSGAGE", "oldest_message_age"),
    ("OPPROCS", "open_output_count"), ("PID", "process_id"), ("QTIME", "queue_time_indicator"),
    ("QUEUE", "queue_name"), ("TYPE", "type"), ("UNCOM", "uncommitted_messages"),
    ("USERID", "user_id")]
  responseValues := .ofAscending [
    ("TYPE", .ofAscending [("HANDLE", "handle"), ("QUEUE", "queue")])]

def queue : QualifierTable where
  requestKeys := .ofAscending [
    ("alteration_date", "ALTDATE"), ("alteration_time", "ALTTIME"),
    ("backout_requeue_queue_name", "BOQNAME"), ("backout_threshold", "BOTHRESH"),
    ("cluster_name", "CLUSTER"), ("creation_date", "CRDATE"), ("creation_time", "CRTIME"),
    ("current_queue_depth", "CURDEPTH"), ("default_input_open_option", "DEFSOPT"),
    ("default_persistence", "DEFPSIST"), ("default_priority", "DEFPRTY"),
    ("definition_type", "DEFTYPE"), ("description", "DESCR"), ("get_inhibited", "GET"),
    ("initiation_queue_name", "INITQ"), ("max_message_length", "MAXMSGL"),
    ("max_queue_depth", "MAXDEPTH"), ("open_input_count", "IPPROCS"),
    ("open_output_count", "OPPROCS"), ("process_name", "PROCESS"), ("put_inhibited", "PUT"),
    ("queue_depth_high_limit", "QDEPTHHI"), ("queue_depth_low_limit", "QDEPTHLO"),
    ("queue_name", "QUEUE"), ("queue_type", "TYPE"), ("remote_queue_manager_name", "RQMNAME"),
    ("remote_queue_name", "RNAME"), ("share_mode", "SHARE"), ("target_name", "TARGET"),
    ("target_type", "TARGTYPE"), ("transmission_queue_name", "XMITQ"),
    ("trigger_control", "TRIGGER"), ("trigger_depth", "TRIGDPTH"), ("trigger_type", "TRIGTYPE"),
    ("usage", "USAGE")]
  requestValues := .ofAscending [
    ("DEFPSIST", .ofAscending [("no", "NO"), ("yes", "YES")]),
    ("DEFSOPT", .ofAscending [("exclusive", "EXCL"), ("shared", "SHARED")]),
    ("DEFTYPE", .ofAscending [
      ("permanent_dynamic", "PERMDYN"), ("predefined", "PREDEFINED"),
      ("shared_dynamic", "SHAREDYN"), ("temporary_dynamic", "TEMPDYN")]),
    ("GET", .ofAscending [("disabled", "DISABLED"), ("enabled", "ENABLED")]),
    ("PUT", .ofAscending [("disabled", "DISABLED"), ("enabled", "ENABLED")]),
    ("SHARE", .ofAscending [("no", "NOSHARE"), ("yes", "SHARE")]),
    ("TARGTYPE", .ofAscending [("queue", "QUEUE"), ("topic", "TOPIC")]),
    ("TRIGGER", .ofAscending [("no", "NOTRIGGER"), ("yes", "TRIGGER")]),
    ("TRIGTYPE", .ofAscending [
      ("depth", "DEPTH"), ("every", "EVERY"), ("first", "FIRST"), ("none", "NONE")]),
    ("TYPE", .ofAscending [
      ("alias", "QALIAS"), ("cluster", "QCLUSTER"), ("local", "QLOCAL"), ("model", "QMODEL"),
      ("remote", "QREMOTE")]),
    ("USAGE", .ofAscending [("normal", "NORMAL"), ("transmission", "XMITQ")])]
  requestPairs := .ofAscending [
    ("noreplace", .ofAscending [("yes", ⟨"REPLACE", "NO"⟩)]),
    ("replace", .ofAscending [("no", ⟨"REPLACE", "NO"⟩), ("yes", ⟨"REPLACE", "YES"⟩)])]
  responseKeys := .ofAscending [
    ("ALTDATE", "alteration_date"), ("ALTTIME", "alteration_time"),
    ("BOQNAME", "backout_requeue_queue_name"), ("BOTHRESH", "backout_threshold"),
    ("CLUSTER", "cluster_name"), ("CRDATE", "creation_date"), ("CRTIME", "creation_time"),
    ("CURDEPTH", "current_queue_depth"), ("DEFPRTY", "default_priority"),
    ("DEFPSIST", "default_persistence"), ("DEFSOPT", "default_input_open_option"),
    ("DEFTYPE", "definition_type"), ("DESCR", "description"), ("GET", "get_inhibited"),
    ("INITQ", "initiation_queue_name"), ("IPPROCS", "open_input_count"),
    ("MAXDEPTH", "max_queue_depth"), ("MAXMSGL", "max_message_length"),
    ("OPPROCS", "open_output_count"), ("PROCESS", "process_name"), ("PUT", "put_inhibited"),
    ("QDEPTHHI", "queue_depth_high_limit"), ("QDEPTHLO", "queue_depth_low_limit"),
    ("QUEUE", "queue_name"), ("RNAME", "remote_queue_name"),
    ("RQMNAME", "remote_queue_manager_name"), ("SHARE", "share_mode"), ("TARGET", "target_name"),
    ("TARGTYPE", "target_type"), ("TRIGDPTH", "trigger_depth"), ("TRIGGER", "trigger_control"),
    ("TRIGTYPE", "trigger_type"), ("TYPE", "queue_type"), ("USAGE", "usage"),
    ("XMITQ", "transmission_queue_name")]
  responseValues := .ofAscending [
    ("DEFPSIST", .ofAscending [("NO", "no"), ("YES", "yes")]),
    ("DEFSOPT", .ofAscending [("EXCL", "exclusive"), ("SHARED", "shared")]),
    ("DEFTYPE", .ofAscending [
      ("PERMDYN", "permanent_dynamic"), ("PREDEFINED", "predefined"),
      ("SHAREDYN", "shared_dynamic"), ("TEMPDYN", "temporary_dynamic")]),
    ("GET", .ofAscending [("DISABLED", "disabled"), ("ENABLED", "enabled")]),
    ("PUT", .ofAscending [("DISABLED", "disabled"), ("ENABLED", "enabled")]),
    ("SHARE", .ofAscending [("NOSHARE", "no"), ("SHARE", "yes")]),
    ("TARGTYPE", .ofAscending [("QUEUE", "queue"), ("TOPIC", "topic")]),
    ("TRIGGER", .ofAscending [("NOTRIGGER", "no"), ("TRIGGER", "yes")]),
    ("TRIGTYPE", .ofAscending [
      ("DEPTH", "depth"), ("EVERY", "every"), ("FIRST", "first"), ("NONE", "none")]),
    ("TYPE", .ofAscending [
      ("QALIAS", "alias"), ("QCLUSTER", "cluster"), ("QLOCAL", "local"), ("QMODEL", "model"),
      ("QREMOTE", "remote")]),
    ("USAGE", .ofAscending [("NORMAL", "normal"), ("XMITQ", "transmission")])]

def security : QualifierTable where
  requestKeys := .ofAscending [
    ("command_scope", "CMDSCOPE"), ("interval", "INTERVAL"), ("timeout", "TIMEOUT")]
  responseKeys := .ofAscending [
    ("CMDSCOPE", "command_scope"), ("INTERVAL", "interval"), ("TIMEOUT", "timeout")]

def service : QualifierTable where
  requestKeys := .ofAscending [
    ("description", "DESCR"), ("service_name", "SERVICE"), ("service_type", "SERVTYPE"),
    ("start_arguments", "STARTARG"), ("start_command", "STARTCMD"), ("start_mode", "CONTROL"),
    ("stderr_destination", "STDERR"), ("stdout_destination", "STDOUT"),
    ("stop_arguments", "STOPARG"), ("stop_command", "STOPCMD")]
  requestValues := .ofAscending [
    ("CONTROL", .ofAscending [
      ("manual", "MANUAL"), ("queue_manager", "QMGR"), ("queue_manager_start", "STARTONLY")]),
    ("SERVTYPE", .ofAscending [("command", "COMMAND"), ("server", "SERVER")])]
  requestPairs := .ofAscending [
    ("noreplace", .ofAscending [("yes", ⟨"REPLACE", "NO"⟩)]),
    ("replace", .ofAscending [("no", ⟨"REPLACE", "NO"⟩), ("yes", ⟨"REPLACE", "YES"⟩)])]
  responseKeys := .ofAscending [
    ("CONTROL", "start_mode"), ("DESCR", "description"), ("SERVICE", "service_name"),
    ("SERVTYPE", "service_type"), ("STARTARG", "start_arguments"), ("STARTCMD", "start_command"),
    ("STDERR", "stderr_destination"), ("STDOUT", "stdout_destination"),
    ("STOPARG", "stop_arguments"), ("STOPCMD", "stop_command")]
  responseValues := .ofAscending [
    ("CONTROL", .ofAscending [
      ("MANUAL", "manual"), ("QMGR", "queue_manager"), ("STARTONLY", "queue_manager_start")]),
    ("SERVTYPE", .ofAscending [("COMMAND", "command"), ("SERVER", "server")])]

def smds : QualifierTable where
  requestKeys := .ofAscending [
    ("cfstruct_name", "CFSTRUCT"), ("command_scope", "CMDSCOPE"), ("data_set_buffers", "DSBUFS"),
    ("data_set_expand", "DSEXPAND"), ("smds_name", "SMDS")]
  requestValues := .ofAscending [
    ("DSEXPAND", .ofAscending [("default", "DEFAULT"), ("no", "NO"), ("yes", "YES")])]
  responseKeys := .ofAscending [
    ("CFSTRUCT", "cfstruct_name"), ("CMDSCOPE", "command_scope"), ("DSBUFS", "data_set_buffers"),
    ("DSEXPAND", "data_set_expand"), ("SMDS", "smds_name")]
  responseValues := .ofAscending [
    ("DSEXPAND", .ofAscending [("DEFAULT", "default"), ("NO", "no"), ("YES", "yes")])]

def smdsconn : QualifierTable where
  requestKeys := .ofAscending [
    ("availability", "AVAIL"), ("cfstruct_name", "CFSTRUCT"), ("command_scope", "CMDSCOPE"),
    ("smds_name", "SMDS"), ("status", "STATUS")]
  responseKeys := .ofAscending [
    ("AVAIL", "availability"), ("CFSTRUCT", "cfstruct_name"), ("CMDSCOPE", "command_scope"),
    ("SMDS", "smds_name"), ("STATUS", "status")]

def stgclass : QualifierTable where
  requestKeys := .ofAscending [
    ("command_scope", "CMDSCOPE"), ("description", "DESCR"), ("page_set_id", "PSID"),
    ("pass_ticket_application", "PASSTKTA"), ("qsg_disposition", "QSGDISP"),
    ("storage_class_name", "STGCLASS"), ("xcf_group_name", "XCFGNAME"),
    ("xcf_member_name", "XCFMNAME")]
  requestValues := .ofAscending [
    ("QSGDISP", .ofAscending [
      ("copy", "COPY"), ("group", "GROUP"), ("queue_manager", "QMGR"), ("shared", "SHARED")])]
  requestPairs := .ofAscending [
    ("noreplace", .ofAscending [("yes", ⟨"REPLACE", "NO"⟩)]),
    ("replace", .ofAscending [("no", ⟨"REPLACE", "NO"⟩), ("yes", ⟨"REPLACE", "YES"⟩)])]
  responseKeys := .ofAscending [
    ("ALTDATE", "alteration_date"), ("ALTTIME", "alteration_time"), ("CMDSCOPE", "command_scope"),
    ("DESCR", "description"), ("PASSTKTA", "pass_ticket_application"), ("PSID", "page_set_id"),
    ("QSGDISP", "qsg_disposition"), ("STGCLASS", "storage_class_name"),
    ("XCFGNAME", "xcf_group_name"), ("XCFMNAME", "xcf_member_name")]
  responseValues := .ofAscending [
    ("QSGDISP", .ofAscending [
      ("COPY", "copy"), ("GROUP", "group"), ("QMGR", "queue_manager"), ("SHARED", "shared")])]

def sub : QualifierTable where
  requestKeys := .ofAscending [
    ("destination", "DEST"), ("destination_queue_manager", "DESTQMGR"), ("durable", "DURABLE"),
    ("subscription_id", "SUBID"), ("subscription_name", "SUBNAME"), ("topic_name", "TOPICOBJ"),
    ("topic_string", "TOPICSTR"), ("user_data", "USERDATA")]
  requestValues := .ofAscending [
    ("DURABLE", .ofAscending [("no", "NO"), ("yes", "YES")])]
  requestPairs := .ofAscending [
    ("noreplace", .ofAscending [("yes", ⟨"REPLACE", "NO"⟩)]),
    ("replace", .ofAscending [("no", ⟨"REPLACE", "NO"⟩), ("yes", ⟨"REPLACE", "YES"⟩)])]
  responseKeys := .ofAscending [
    ("DEST", "destination"), ("DESTQMGR", "destination_queue_manager"), ("DURABLE", "durable"),
    ("SUBID", "subscription_id"), ("SUBNAME", "subscription_name"), ("TOPICOBJ", "topic_name"),
    ("TOPICSTR", "topic_string"), ("USERDATA", "user_data")]
  responseValues := .ofAscending [
    ("DURABLE", .ofAscending [("NO", "no"), ("YES", "yes")])]

def svstatus : QualifierTable where
  requestKeys := .ofAscending [
    ("process_id", "PID"), ("service_name", "SERVICE"), ("start_date", "STARTDA"),
    ("start_time", "STARTTI"), ("status", "STATUS")]
  requestValues := .ofAscending [
    ("STATUS", .ofAscending [
      ("binding", "BINDING"), ("inactive", "INACTIVE"), ("paused", "PAUSED"),
      ("retrying", "RETRYING"), ("running", "RUNNING"), ("starting", "STARTING"),
      ("stopped", "STOPPED"), ("stopping", "STOPPING")])]
  responseKeys := .ofAscending [
    ("PID", "process_id"), ("SERVICE", "service_name"), ("STARTDA", "start_date"),
    ("STARTTI", "start_time"), ("STATUS", "status")]
  responseValues := .ofAscending [
    ("STATUS", .ofAscending [
      ("BINDING", "binding"), ("INACTIVE", "inactive"), ("PAUSED", "paused"),
      ("RETRYING", "retrying"), ("RUNNING", "running"), ("STARTING", "starting"),
      ("STOPPED", "stopped"), ("STOPPING", "stopping")])]

def topic : QualifierTable where
  requestKeys := .ofAscending [
    ("cluster_name", "CLUSTER"), ("default_persistence", "DEFPSIST"), ("description", "DESCR"),
    ("durable_subscriptions", "DURSUB"), ("publish", "PUB"), ("subscribe", "SUB"),
    ("topic_name", "TOPIC"), ("topic_string", "TOPICSTR")]
  requestValues := .ofAscending [
    ("DEFPSIST", .ofAscending [("as_parent", "ASPARENT"), ("no", "NO"), ("yes", "YES")]),
    ("DURSUB", .ofAscending [("as_parent", "ASPARENT"), ("no", "NO"), ("yes", "YES")]),
    ("PUB", .ofAscending [
      ("as_parent", "ASPARENT"), ("disabled", "DISABLED"), ("enabled", "ENABLED")]),
    ("SUB", .ofAscending [
      ("as_parent", "ASPARENT"), ("disabled", "DISABLED"), ("enabled", "ENABLED")])]
  requestPairs := .ofAscending [
    ("noreplace", .ofAscending [("yes", ⟨"REPLACE", "NO"⟩)]),
    ("replace", .ofAscending [("no", ⟨"REPLACE", "NO"⟩), ("yes", ⟨"REPLACE", "YES"⟩)])]
  responseKeys := .ofAscending [
    ("CLUSTER", "cluster_name"), ("DEFPSIST", "default_persistence"), ("DESCR", "description"),
    ("DURSUB", "durable_subscriptions"), ("PUB", "publish"), ("SUB", "subscribe"),
    ("TOPIC", "topic_name"), ("TOPICSTR", "topic_string")]
  responseValues := .ofAscending [
    ("DEFPSIST", .ofAscending [("ASPARENT", "as_parent"), ("NO", "no"), ("YES", "yes")]),
    ("DURSUB", .ofAscending [("ASPARENT", "as_parent"), ("NO", "no"), ("YES", "yes")]),
    ("PUB", .ofAscending [
      ("ASPARENT", "as_parent"), ("DISABLED", "disabled"), ("ENABLED", "enabled")]),
    ("SUB", .ofAscending [
      ("ASPARENT", "as_parent"), ("DISABLED", "disabled"), ("ENABLED", "enabled")])]

def trace : QualifierTable where
  requestKeys := .ofAscending [
    ("command_scope", "CMDSCOPE"), ("comment", "COMMENT"), ("destination", "DEST"),
    ("trace_class", "CLASS"), ("trace_number", "TNO"), ("trace_type", "TRACE")]
  requestValues := .ofAscending [
    ("DEST", .ofAscending [("gtf", "GTF"), ("res", "RES"), ("smf", "SMF"), ("srv", "SRV")]),
    ("TRACE", .ofAscending [
      ("accounting", "ACCTG"), ("channel_initiator", "CHINIT"), ("global", "GLOBAL"),
      ("statistics", "STAT")])]
  responseKeys := .ofAscending [
    ("CLASS", "trace_class"), ("CMDSCOPE", "command_scope"), ("COMMENT", "comment"),
    ("DEST", "destination"), ("TNO", "trace_number"), ("TRACE", "trace_type")]
  responseValues := .ofAscending [
    ("DEST", .ofAscending [("GTF", "gtf"), ("RES", "res"), ("SMF", "smf"), ("SRV", "srv")]),
    ("TRACE", .ofAscending [
      ("ACCTG", "accounting"), ("CHINIT", "channel_initiator"), ("GLOBAL", "global"),
      ("STAT", "statistics")])]

def commands : KeyMap CommandEntry := .ofAscending [
  ("ALTER AUTHINFO", ⟨"authinfo", []⟩), ("ALTER BUFFPOOL", ⟨"buffpool", []⟩),
  ("ALTER CFSTRUCT", ⟨"cfstruct", []⟩), ("ALTER CHANNEL", ⟨"channel", []⟩),
  ("ALTER COMMINFO", ⟨"comminfo", []⟩), ("ALTER LISTENER", ⟨"listener", []⟩),
  ("ALTER NAMELIST", ⟨"namelist", []⟩), ("ALTER PROCESS", ⟨"process", []⟩),
  ("ALTER PSID", ⟨"psid", []⟩), ("ALTER QALIAS", ⟨"queue", []⟩), ("ALTER QLOCAL", ⟨"queue", []⟩),
  ("ALTER QMGR", ⟨"qmgr", []⟩), ("ALTER QMODEL", ⟨"queue", []⟩), ("ALTER QREMOTE", ⟨"queue", []⟩),
  ("ALTER SECURITY", ⟨"security", []⟩), ("ALTER SERVICE", ⟨"service", []⟩),
  ("ALTER SMDS", ⟨"smds", []⟩), ("ALTER STGCLASS", ⟨"stgclass", []⟩), ("ALTER SUB", ⟨"sub", []⟩),
  ("ALTER TOPIC", ⟨"topic", []⟩), ("ALTER TRACE", ⟨"trace", []⟩), ("CLEAR QLOCAL", ⟨"queue", []⟩),
  ("CLEAR TOPIC", ⟨"topic", []⟩), ("DEFINE AUTHINFO", ⟨"authinfo", []⟩),
  ("DEFINE BUFFPOOL", ⟨"buffpool", []⟩), ("DEFINE CFSTRUCT", ⟨"cfstruct", []⟩),
  ("DEFINE CHANNEL", ⟨"channel", []⟩), ("DEFINE COMMINFO", ⟨"comminfo", []⟩),
  ("DEFINE LISTENER", ⟨"listener", []⟩), ("DEFINE LOG", ⟨"log", []⟩),
  ("DEFINE MAXSMSGS", ⟨"maxsmsgs", []⟩), ("DEFINE NAMELIST", ⟨"namelist", []⟩),
  ("DEFINE PROCESS", ⟨"process", []⟩), ("DEFINE PSID", ⟨"psid", []⟩),
  ("DEFINE QALIAS", ⟨"queue", []⟩), ("DEFINE QLOCAL", ⟨"queue", []⟩),
  ("DEFINE QMODEL", ⟨"queue", []⟩), ("DEFINE QREMOTE", ⟨"queue", []⟩),
  ("DEFINE SERVICE", ⟨"service", []⟩), ("DEFINE STGCLASS", ⟨"stgclass", []⟩),
  ("DEFINE SUB", ⟨"sub", []⟩), ("DEFINE TOPIC", ⟨"topic", []⟩),
  ("DELETE AUTHINFO", ⟨"authinfo", []⟩), ("DELETE BUFFPOOL", ⟨"buffpool", []⟩),
  ("DELETE CFSTRUCT", ⟨"cfstruct", []⟩), ("DELETE CHANNEL", ⟨"channel", []⟩),
  ("DELETE COMMINFO", ⟨"comminfo", []⟩), ("DELETE LISTENER", ⟨"listener", []⟩),
  ("DELETE NAMELIST", ⟨"namelist", []⟩), ("DELETE PROCESS", ⟨"process", []⟩),
  ("DELETE PSID", ⟨"psid", []⟩), ("DELETE QALIAS", ⟨"queue", []⟩),
  ("DELETE QLOCAL", ⟨"queue", []⟩), ("DELETE QMODEL", ⟨"queue", []⟩),
  ("DELETE QREMOTE", ⟨"queue", []⟩), ("DELETE SERVICE", ⟨"service", []⟩),
  ("DELETE STGCLASS", ⟨"stgclass", []⟩), ("DELETE SUB", ⟨"sub", []⟩),
  ("DELETE TOPIC", ⟨"topic", []⟩), ("DISPLAY AUTHINFO", ⟨"authinfo", []⟩),
  ("DISPLAY CFSTRUCT", ⟨"cfstruct", []⟩), ("DISPLAY CHANNEL", ⟨"channel", []⟩),
  ("DISPLAY CHINIT", ⟨"chinit", []⟩), ("DISPLAY CHSTATUS", ⟨"chstatus", ["MONITOR"]⟩),
  ("DISPLAY CMDSERV", ⟨"cmdserv", []⟩), ("DISPLAY COMMINFO", ⟨"comminfo", []⟩),
  ("DISPLAY CONN", ⟨"conn", []⟩), ("DISPLAY LISTENER", ⟨"listener", []⟩),
  ("DISPLAY LOG", ⟨"log", []⟩), ("DISPLAY LSSTATUS", ⟨"lsstatus", []⟩),
  ("DISPLAY MAXSMSGS", ⟨"maxsmsgs", []⟩), ("DISPLAY NAMELIST", ⟨"namelist", []⟩),
  ("DISPLAY PROCESS", ⟨"process", []⟩), ("DISPLAY QALIAS", ⟨"queue", []⟩),
  ("DISPLAY QCLUSTER", ⟨"queue", []⟩), ("DISPLAY QLOCAL", ⟨"queue", []⟩),
  ("DISPLAY QMGR", ⟨"qmgr", []⟩), ("DISPLAY QMODEL", ⟨"queue", []⟩),
  ("DISPLAY QMSTATUS", ⟨"qmstatus", []⟩), ("DISPLAY QREMOTE", ⟨"queue", []⟩),
  ("DISPLAY QSTATUS", ⟨"qstatus", ["MONITOR"]⟩), ("DISPLAY QUEUE", ⟨"queue", []⟩),
  ("DISPLAY SECURITY", ⟨"security", []⟩), ("DISPLAY SERVICE", ⟨"service", []⟩),
  ("DISPLAY SMDS", ⟨"smds", []⟩), ("DISPLAY SMDSCONN", ⟨"smdsconn", []⟩),
  ("DISPLAY STGCLASS", ⟨"stgclass", []⟩), ("DISPLAY SUB", ⟨"sub", []⟩),
  ("DISPLAY SVSTATUS", ⟨"svstatus", []⟩), ("DISPLAY TOPIC", ⟨"topic", []⟩),
  ("DISPLAY TRACE", ⟨"trace", []⟩), ("PING CHANNEL", ⟨"channel", []⟩),
  ("PING QMGR", ⟨"qmgr", []⟩), ("REFRESH QMGR", ⟨"qmgr", []⟩), ("RESET CHANNEL", ⟨"channel", []⟩),
  ("RESET QMGR", ⟨"qmgr", []⟩), ("RESOLVE CHANNEL", ⟨"channel", []⟩),
  ("RESUME QMGR", ⟨"qmgr", []⟩), ("START CHANNEL", ⟨"channel", []⟩),
  ("START CHINIT", ⟨"chinit", []⟩), ("START LISTENER", ⟨"listener", []⟩),
  ("START SERVICE", ⟨"service", []⟩), ("START SMDSCONN", ⟨"smdsconn", []⟩),
  ("START TRACE", ⟨"trace", []⟩), ("STOP CHANNEL", ⟨"channel", []⟩),
  ("STOP CHINIT", ⟨"chinit", []⟩), ("STOP CONN", ⟨"conn", []⟩),
  ("STOP LISTENER", ⟨"listener", []⟩), ("STOP SERVICE", ⟨"service", []⟩),
  ("STOP SMDSCONN", ⟨"smdsconn", []⟩), ("STOP TRACE", ⟨"trace", []⟩),
  ("SUSPEND QMGR", ⟨"qmgr", []⟩)]

def qualifiers : KeyMap QualifierTable := .ofAscending [
  ("authinfo", authinfo), ("buffpool", buffpool), ("cfstruct", cfstruct), ("channel", channel),
  ("chinit", chinit), ("chstatus", chstatus), ("cmdserv", cmdserv), ("comminfo", comminfo),
  ("conn", conn), ("listener", listener), ("log", log), ("lsstatus", lsstatus),
  ("maxsmsgs", maxsmsgs), ("namelist", namelist), ("process", process), ("psid", psid),
  ("qmgr", qmgr), ("qmstatus", qmstatus), ("qstatus", qstatus), ("queue", queue),
  ("security", security), ("service", service), ("smds", smds), ("smdsconn", smdsconn),
  ("stgclass", stgclass), ("sub", sub), ("svstatus", svstatus), ("topic", topic),
  ("trace", trace)]

end MqAdmin.Mapping.Bundled

namespace MqAdmin.Mapping

def Table.bundled : Table := ⟨Bundled.commands, Bundled.qualifiers, some 1⟩

end MqAdmin.Mapping
