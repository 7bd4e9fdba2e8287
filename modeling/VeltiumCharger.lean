import VeltiumCharger.Library.Accumulate
import VeltiumCharger.Library.Buffer
import VeltiumCharger.Library.Checked
import VeltiumCharger.Library.Crc
import VeltiumCharger.Library.Document
import VeltiumCharger.Library.Feistel
import VeltiumCharger.Library.Keyed
import VeltiumCharger.Library.LastWrite
import VeltiumCharger.Library.Lines
import VeltiumCharger.Library.Loop
import VeltiumCharger.Library.Peers
import VeltiumCharger.Library.Rank
import VeltiumCharger.Library.Rotate
import VeltiumCharger.Library.Run
import VeltiumCharger.Library.Script
import VeltiumCharger.Library.Share
import VeltiumCharger.Library.Substitution
import VeltiumCharger.Group.Tipos
import VeltiumCharger.Group.Calculo
import VeltiumCharger.Group.LimiteConsumo
import VeltiumCharger.Group.Recuento
import VeltiumCharger.Group.Expulsiones
import VeltiumCharger.Group.Asignacion
import VeltiumCharger.Group.Equilibrado
import VeltiumCharger.Group.Limites
import VeltiumCharger.Group.Consumo
import VeltiumCharger.Group.Estabilidad
import VeltiumCharger.Group.Solicitud
import VeltiumCharger.Group.Admision
import VeltiumCharger.Group.Tabla
import VeltiumCharger.Group.Listas
import VeltiumCharger.Group.NewData
import VeltiumCharger.Group.Maestro
import VeltiumCharger.Group.Historia
import VeltiumCharger.Group.Permiso
import VeltiumCharger.Group.OrdenAdmision
import VeltiumCharger.Group.NewGroup
import VeltiumCharger.Group.BienFormada
import VeltiumCharger.Group.Identidad
import VeltiumCharger.Group.Rotacion
import VeltiumCharger.Group.Chargers
import VeltiumCharger.Group.Flash
import VeltiumCharger.Group.GrupoFlash
import VeltiumCharger.Group.CircuitosFlash
import VeltiumCharger.Group.ParamsFlash
import VeltiumCharger.Library.Stream
import VeltiumCharger.Uart.Trama
import VeltiumCharger.Uart.Lectura
import VeltiumCharger.Uart.Recepcion
import VeltiumCharger.Uart.Resincronizacion
import VeltiumCharger.Bloqueo.Cargador
import VeltiumCharger.Bloqueo.Coherencia
import VeltiumCharger.Bloqueo.Desbloqueo
import VeltiumCharger.Acuerdo.Miembros
import VeltiumCharger.Acuerdo.Maestro
import VeltiumCharger.Acuerdo.Reclutamiento
import VeltiumCharger.Acuerdo.Cifrado
import VeltiumCharger.Horario.Envio
import VeltiumCharger.Actualizacion.Almacen
import VeltiumCharger.Actualizacion.TransferenciaBle
import VeltiumCharger.Actualizacion.Descarga
import VeltiumCharger.Actualizacion.Comprobacion
import VeltiumCharger.Ble.Autenticacion
import VeltiumCharger.Ble.Blowfish
import VeltiumCharger.Ble.Servidor
import VeltiumCharger.Registros.Permiso
import VeltiumCharger.Registros.Sincronizacion
import VeltiumCharger.Nube.Control
import VeltiumCharger.Nube.Respuestas
import VeltiumCharger.Nube.Clientes
import VeltiumCharger.Group.Turno
import VeltiumCharger.Group.Contadores
import VeltiumCharger.Group.Consignas
import VeltiumCharger.Group.Vaciado
import VeltiumCharger.Group.Mensajes
import VeltiumCharger.Bloques.Procesar
import VeltiumCharger.Bloques.Alcance
import VeltiumCharger.Bloques.Modo
import VeltiumCharger.Bloques.Medidas
import VeltiumCharger.Bloques.Registro
import VeltiumCharger.Horario.Programas
import VeltiumCharger.Ble.Selector
import VeltiumCharger.Ble.Limites
import VeltiumCharger.Cybtldr.Lector
import VeltiumCharger.Cybtldr.Transferencia
import VeltiumCharger.Cybtldr.Fichero
import VeltiumCharger.Cybtldr.Ordenes
import VeltiumCharger.Cybtldr.Programacion
import VeltiumCharger.Cybtldr.Filas
import VeltiumCharger.Cybtldr.Entrega
import VeltiumCharger.Cybtldr.Instalacion
import VeltiumCharger.Led.Efectos
import VeltiumCharger.Led.Tarea
import VeltiumCharger.Arranque.Configuracion
import VeltiumCharger.Arranque.Tarea
import VeltiumCharger.Arranque.Efecto
import VeltiumCharger.Arranque.Pasada
import VeltiumCharger.Arranque.Sistema
import VeltiumCharger.Arranque.Plazo
import VeltiumCharger.Arranque.Reinicios
import VeltiumCharger.Arranque.Emergencia
